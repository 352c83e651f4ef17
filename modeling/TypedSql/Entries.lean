namespace TypedSql.Entries

variable {β : Type}

/-- Puts a value under a name: in place where the name is there, else at the end. -/
def put (name : String) (value : β) : List (String × β) → List (String × β)
  | [] => [(name, value)]
  | entry :: rest =>
    if entry.1 = name then (name, value) :: rest else entry :: put name value rest

def find? (name : String) (entries : List (String × β)) : Option β :=
  (entries.find? (·.1 = name)).map (·.2)

def erase (name : String) (entries : List (String × β)) : List (String × β) :=
  entries.filter (·.1 ≠ name)

/-- Puts one entry after the other; of one name the last value stays, at the first place. -/
def putAll (entries added : List (String × β)) : List (String × β) :=
  added.foldl (fun entries entry => put entry.1 entry.2 entries) entries

theorem find?_put (name other : String) (value : β) (entries : List (String × β)) :
    find? other (put name value entries) =
      if name = other then some value else find? other entries := by
  induction entries with
  | nil => by_cases h : name = other <;> simp [find?, put, h]
  | cons entry rest ih =>
    unfold find? at ih ⊢
    unfold put
    by_cases hn : entry.1 = name
    · by_cases h : name = other <;> simp [hn, h]
    · rw [if_neg hn, List.find?_cons, List.find?_cons]
      by_cases ho : entry.1 = other
      · have h : name ≠ other := fun h => hn (ho.trans h.symm)
        simp [ho, h]
      · simpa [ho] using ih

/-- A name keeps its place when its value changes, and a new name comes last. -/
theorem names_put (name : String) (value : β) (entries : List (String × β)) :
    (put name value entries).map (·.1) =
      if name ∈ entries.map (·.1) then entries.map (·.1) else entries.map (·.1) ++ [name] := by
  induction entries with
  | nil => simp [put]
  | cons entry rest ih =>
    unfold put
    by_cases hn : entry.1 = name
    · simp [hn]
    · rw [if_neg hn, List.map_cons, ih]
      by_cases hm : name ∈ rest.map (·.1)
      · simp [hm]
      · simp [hm, Ne.symm hn]

theorem nodup_put {name : String} {value : β} {entries : List (String × β)}
    (h : (entries.map (·.1)).Nodup) : ((put name value entries).map (·.1)).Nodup := by
  rw [names_put]
  split
  next => exact h
  next absent =>
    refine List.nodup_append.mpr ⟨h, List.pairwise_singleton _ name, ?_⟩
    intro other there _ here same
    rw [same, List.mem_singleton.mp here] at there
    exact absent there

theorem mem_put {name : String} {value : β} {entries : List (String × β)} {entry : String × β}
    (h : entry ∈ put name value entries) : entry = (name, value) ∨ entry ∈ entries := by
  induction entries with
  | nil => exact Or.inl (List.mem_singleton.mp h)
  | cons first rest ih =>
    unfold put at h
    split at h
    next =>
      rcases List.mem_cons.mp h with here | later
      · exact Or.inl here
      · exact Or.inr (List.mem_cons_of_mem _ later)
    next =>
      rcases List.mem_cons.mp h with here | later
      · exact Or.inr (here ▸ List.mem_cons_self)
      · exact (ih later).imp_right (List.mem_cons_of_mem _)

theorem nodup_putAll {entries added : List (String × β)} (h : (entries.map (·.1)).Nodup) :
    ((putAll entries added).map (·.1)).Nodup := by
  unfold putAll
  induction added generalizing entries with
  | nil => exact h
  | cons first rest ih => exact ih (nodup_put h)

theorem mem_putAll {entries added : List (String × β)} {entry : String × β}
    (h : entry ∈ putAll entries added) : entry ∈ added ∨ entry ∈ entries := by
  unfold putAll at h
  induction added generalizing entries with
  | nil => exact Or.inr h
  | cons first rest ih =>
    rcases ih h with later | before
    · exact Or.inl (List.mem_cons_of_mem _ later)
    · rcases mem_put before with here | old
      · exact Or.inl (here ▸ List.mem_cons_self)
      · exact Or.inr old

end TypedSql.Entries
