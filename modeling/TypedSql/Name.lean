namespace TypedSql.Name

/-- The form under which a parameter is stored: it starts with the marker. -/
def marked (name : String) : String :=
  match name.toList with
  | '@' :: _ => name
  | _ => "@" ++ name

def bare (name : String) : String :=
  match name.toList with
  | '@' :: rest => String.ofList rest
  | _ => name

theorem marked_startsWith (name : String) : (marked name).toList.head? = some '@' := by
  unfold marked
  split
  next h => simp [h]
  next => simp

theorem marked_marked (name : String) : marked (marked name) = marked name := by
  have h := marked_startsWith name
  conv => lhs; unfold marked
  split
  next => rfl
  next hn =>
    cases hc : (marked name).toList with
    | nil => simp [hc] at h
    | cons c rest =>
      rw [hc] at h
      cases Option.some.inj h
      exact absurd hc (hn rest)

def lowerAscii (c : Char) : Char :=
  if 'A' ≤ c && c ≤ 'Z' then Char.ofNat (c.toNat + 32) else c

/-- Equality up to the case of ASCII letters. -/
def sameIgnoringCase (a b : String) : Bool :=
  a.toList.map lowerAscii = b.toList.map lowerAscii

end TypedSql.Name
