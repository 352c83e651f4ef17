import TypedSql.Proofs.Connection.Life

namespace TypedSql

def connections (events : List Event) : List Handle :=
  (events.filter fun e => e.call.kind = .connect ∧ e.succeeded).map (·.handle)

def closes (events : List Event) : List Handle :=
  (events.filter (·.call.kind = .close)).map (·.handle)

/-- The connections that were made and not closed. -/
def live (events : List Event) : List Handle := (connections events).filter (· ∉ closes events)

/-- Events in good order from where one connection at most is live, and `last` is the last handle in
use: connections are asked for while none is live, under new handles, and everything else happens on
the live one. -/
inductive Orderly : Nat → Option Handle → List Event → Nat → Option Handle → Prop where
  | nil {last : Nat} {live? : Option Handle} : Orderly last live? [] last live?
  | refused {last last' handle : Nat} {live' : Option Handle} {rest : List Event} {target : String}
      (fresh : last < handle) (after : Orderly handle none rest last' live') :
      Orderly last none (⟨handle, .connect target, false⟩ :: rest) last' live'
  | connected {last last' handle : Nat} {live' : Option Handle} {rest : List Event} {target : String}
      (fresh : last < handle) (after : Orderly handle (some handle) rest last' live') :
      Orderly last none (⟨handle, .connect target, true⟩ :: rest) last' live'
  | used {last last' handle : Nat} {live' : Option Handle} {rest : List Event} {call : Call} {ok : Bool}
      (kind : call.kind ≠ .connect ∧ call.kind ≠ .close)
      (after : Orderly last (some handle) rest last' live') :
      Orderly last (some handle) (⟨handle, call, ok⟩ :: rest) last' live'
  | closed {last last' handle : Nat} {live' : Option Handle} {rest : List Event} {ok : Bool}
      (after : Orderly last none rest last' live') :
      Orderly last (some handle) (⟨handle, .close, ok⟩ :: rest) last' live'

namespace Orderly

variable {last middle last' : Nat} {live? between live' : Option Handle} {xs ys : List Event}

theorem append (h : Orderly last live? xs middle between) (h' : Orderly middle between ys last' live') :
    Orderly last live? (xs ++ ys) last' live' := by
  induction h with
  | nil => exact h'
  | refused fresh after ih => exact .refused fresh (ih h')
  | connected fresh after ih => exact .connected fresh (ih h')
  | used kind after ih => exact .used kind (ih h')
  | closed after ih => exact .closed (ih h')

theorem split (h : Orderly last live? (xs ++ ys) last' live') :
    ∃ middle between, Orderly last live? xs middle between ∧ Orderly middle between ys last' live' := by
  induction xs generalizing last live? with
  | nil => exact ⟨last, live?, .nil, h⟩
  | cons e xs ih =>
    cases h with
    | refused fresh after =>
      obtain ⟨middle, between, first, second⟩ := ih after
      exact ⟨middle, between, .refused fresh first, second⟩
    | connected fresh after =>
      obtain ⟨middle, between, first, second⟩ := ih after
      exact ⟨middle, between, .connected fresh first, second⟩
    | used kind after =>
      obtain ⟨middle, between, first, second⟩ := ih after
      exact ⟨middle, between, .used kind first, second⟩
    | closed after =>
      obtain ⟨middle, between, first, second⟩ := ih after
      exact ⟨middle, between, .closed first, second⟩

/-- Every connection made is closed in turn, but for the one that is live. -/
theorem connections_eq (h : Orderly last live? xs last' live') :
    live?.toList ++ connections xs = closes xs ++ live'.toList := by
  induction h with
  | nil => simp [connections, closes]
  | refused fresh after ih => simpa [connections, closes, Call.kind] using ih
  | connected fresh after ih => simpa [connections, closes, Call.kind] using ih
  | used kind after ih => simpa [connections, closes, kind.1, kind.2] using ih
  | closed after ih => simpa [connections, closes, Call.kind] using ih

theorem live_le (h : Orderly last live? xs last' live') (start : ∀ handle ∈ live?, handle ≤ last) :
    ∀ handle ∈ live', handle ≤ last' := by
  induction h with
  | nil => exact start
  | refused fresh after ih => exact ih (by simp)
  | connected fresh after ih => exact ih (by simp)
  | used kind after ih => exact ih start
  | closed after ih => exact ih (by simp)

theorem above (h : Orderly last live? xs last' live') :
    ∀ e ∈ xs, last < e.handle ∨ live? = some e.handle := by
  induction h with
  | nil => simp
  | @refused last last' handle live' rest target fresh after ih =>
    intro e he
    rcases List.mem_cons.mp he with rfl | he
    · exact Or.inl fresh
    · rcases ih e he with later | same
      · exact Or.inl (Nat.lt_trans fresh later)
      · simp at same
  | @connected last last' handle live' rest target fresh after ih =>
    intro e he
    rcases List.mem_cons.mp he with rfl | he
    · exact Or.inl fresh
    · rcases ih e he with later | same
      · exact Or.inl (Nat.lt_trans fresh later)
      · rw [← Option.some.inj same]
        exact Or.inl fresh
  | used kind after ih =>
    intro e he
    rcases List.mem_cons.mp he with rfl | he
    · exact Or.inr rfl
    · exact ih e he
  | closed after ih =>
    intro e he
    rcases List.mem_cons.mp he with rfl | he
    · exact Or.inr rfl
    · rcases ih e he with later | same
      · exact Or.inl later
      · simp at same

theorem connections_sorted (h : Orderly last live? xs last' live') :
    (connections xs).Pairwise (· < ·) ∧ ∀ handle ∈ connections xs, last < handle := by
  induction h with
  | nil => simp [connections]
  | @refused last last' handle live' rest target fresh after ih =>
    obtain ⟨sorted, later⟩ := ih
    have same : connections (⟨handle, .connect target, false⟩ :: rest) = connections rest := by
      simp [connections]
    rw [same]
    exact ⟨sorted, fun other mem => Nat.lt_trans fresh (later other mem)⟩
  | @connected last last' handle live' rest target fresh after ih =>
    obtain ⟨sorted, later⟩ := ih
    have more : connections (⟨handle, .connect target, true⟩ :: rest) = handle :: connections rest := by
      simp [connections, Call.kind]
    rw [more]
    refine ⟨List.pairwise_cons.mpr ⟨later, sorted⟩, fun other mem => ?_⟩
    rcases List.mem_cons.mp mem with rfl | mem
    · exact fresh
    · exact Nat.lt_trans fresh (later other mem)
  | used kind after ih => simpa [connections, kind.1] using ih
  | closed after ih => simpa [connections, Call.kind] using ih

theorem of_used {handle : Handle} (h : ∀ e ∈ xs, e.handle = handle)
    (kinds : ∀ e ∈ xs, e.call.kind ≠ .connect ∧ e.call.kind ≠ .close) :
    Orderly last (some handle) xs last (some handle) := by
  induction xs with
  | nil => exact .nil
  | cons e xs ih =>
    obtain ⟨here, later⟩ := List.forall_mem_cons.mp h
    obtain ⟨kind, others⟩ := List.forall_mem_cons.mp kinds
    obtain ⟨_, call, ok⟩ := e
    subst here
    exact .used kind (ih later others)

theorem ne_of_closed {handle : Handle} {ok : Bool}
    (h : Orderly last none (xs ++ ⟨handle, .close, ok⟩ :: ys) last' live') :
    ∀ e ∈ ys, e.handle ≠ handle := by
  obtain ⟨middle, between, first, second⟩ := h.split
  have bound := first.live_le (by simp)
  cases second with
  | used kind after => exact absurd rfl kind.2
  | closed after =>
    intro e he same
    rcases after.above e he with later | same'
    · have := bound handle rfl
      rw [same] at later
      exact Nat.not_lt_of_le this later
    · simp at same'

theorem live_eq (h : Orderly last none xs last' live') : live xs = live'.toList := by
  have split := h.connections_eq
  rw [Option.toList_none, List.nil_append] at split
  have nodup : (connections xs).Nodup := h.connections_sorted.1.imp Nat.ne_of_lt
  rw [split, List.nodup_append] at nodup
  obtain ⟨_, _, apart⟩ := nodup
  unfold live
  rw [split, List.filter_append]
  have none : (closes xs).filter (· ∉ closes xs) = [] := by simp
  have all : live'.toList.filter (· ∉ closes xs) = live'.toList := by
    apply List.filter_eq_self.mpr
    intro handle mem
    exact decide_eq_true fun closed => apart handle closed handle mem rfl
  rw [none, all, List.nil_append]

theorem count_closes {handle : Handle} (h : Orderly last none xs last' live')
    (mem : handle ∈ connections xs) : (closes xs).count handle = 1 ∨ live' = some handle := by
  have split := h.connections_eq
  rw [Option.toList_none, List.nil_append] at split
  have nodup : (connections xs).Nodup := h.connections_sorted.1.imp Nat.ne_of_lt
  rw [split] at nodup mem
  rcases List.mem_append.mp mem with closed | open'
  · have once : (closes xs).Nodup := (List.nodup_append.mp nodup).1
    exact Or.inl (once.count.trans (if_pos closed))
  · exact Or.inr (Option.mem_toList.mp open')

end Orderly

variable {σ : Type} {layer : DataLayer σ} {target : String} {events : List Event}

theorem Attempt.orderly {call : Call} {state state' : σ} {answer : Except Failure call.Answer}
    {handle : Handle} {last : Nat} (h : Attempt layer handle call state events answer state')
    (kind : call.kind ≠ .connect ∧ call.kind ≠ .close) :
    Orderly last (some handle) events last (some handle) := by
  apply Orderly.of_used h.handle_eq
  intro e he
  rcases h.kind e he with openUp | ⟨same, _⟩
  · simp [openUp]
  · rwa [same]

theorem Underway.orderly {last : Nat} (h : Underway layer target (last + 1) events) :
    Orderly last none events (last + 1) (some (last + 1)) := by
  induction h with
  | begun attempt => exact .connected (Nat.lt_succ_self _) (attempt.orderly (by simp [Call.kind]))
  | command ok before kind ih => exact ih.append (.used (by simp [kind]) .nil)

theorem Conclusion.orderly {handle : Handle} {last : Nat} (h : Conclusion handle events) :
    Orderly last (some handle) events last none := by
  cases h with
  | committed closed => exact .used (by simp [Call.kind]) (.closed .nil)
  | commitFailed undone closed =>
    exact .used (by simp [Call.kind]) (.used (by simp [Call.kind]) (.closed .nil))
  | rolledBack undone closed => exact .used (by simp [Call.kind]) (.closed .nil)

theorem Life.orderly {last : Nat} (h : Life layer target (last + 1) events) :
    Orderly last none events (last + 1) none := by
  cases h with
  | refused => exact .refused (Nat.lt_succ_self _) .nil
  | alone closed kind attempt =>
    exact .connected (Nat.lt_succ_self _) ((attempt.orderly (by simp [kind])).append (.closed .nil))
  | unbegun closed attempt =>
    exact .connected (Nat.lt_succ_self _) ((attempt.orderly (by simp [Call.kind])).append (.closed .nil))
  | concluded before after => exact before.orderly.append after.orderly

theorem Lives.orderly {first last : Nat} (h : Lives layer target first last events) :
    Orderly first none events last none := by
  induction h with
  | start => exact .nil
  | next before own ih => exact ih.append own.orderly

end TypedSql
