import TypedSql.Choice

namespace TypedSql

inductive JoinKind where
  | inner
  | left
  | right
  | fullOuter
  deriving DecidableEq

instance : Inhabited JoinKind := ⟨.inner⟩

namespace JoinKind

def keyword : JoinKind → String
  | .inner => "INNER"
  | .left => "LEFT"
  | .right => "RIGHT"
  | .fullOuter => "FULL OUTER"

def label : JoinKind → String
  | .inner => "Inner"
  | .left => "Left"
  | .right => "Right"
  | .fullOuter => "FullOuter"

instance : Choice JoinKind where
  all := [.inner, .left, .right, .fullOuter]
  label := label

end JoinKind

end TypedSql
