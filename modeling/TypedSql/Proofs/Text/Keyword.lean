import TypedSql.Clause

namespace TypedSql.Keyword

theorem after?_append (word rest : String) :
    after? word.toList (word ++ rest).toList = some rest.toList := by
  rw [String.toList_append]
  induction word.toList with
  | nil => rfl
  | cons c cs ih =>
    rw [List.cons_append, after?, if_pos rfl]
    exact ih

/-- A text that begins otherwise is passed over. -/
theorem after?_of_ne {word line : String} {c c' : Char} (first : word.toList.head? = some c)
    (first' : line.toList.head? = some c') (other : c ≠ c') :
    after? word.toList line.toList = none := by
  cases chars : word.toList with
  | nil => simp [chars] at first
  | cons d rest =>
    cases chars' : line.toList with
    | nil => simp [chars'] at first'
    | cons d' rest' =>
      rw [chars, List.head?_cons, Option.some.injEq] at first
      rw [chars', List.head?_cons, Option.some.injEq] at first'
      rw [after?, if_neg (by rw [first, first']; exact other)]

theorem editFirst_of_eq_some {edit : List Char → Option (List Char)} {cs edited : List Char}
    (h : edit cs = some edited) (present : cs ≠ []) : editFirst edit none cs = edited := by
  cases cs with
  | nil => exact absurd rfl present
  | cons c rest => simp [editFirst, h]

theorem after?_select (columns : String) :
    after? "SELECT".toList ("SELECT " ++ columns).toList = some (' ' :: columns.toList) := by
  have parts : "SELECT " ++ columns = "SELECT" ++ (" " ++ columns) := by
    rw [← String.append_assoc]
    rfl
  rw [parts, after?_append, String.toList_append]
  rfl

theorem editFirst_addDistinct (columns : String) :
    String.ofList (editFirst addDistinct none ("SELECT " ++ columns).toList) =
      "SELECT DISTINCT " ++ columns := by
  have found : addDistinct ("SELECT " ++ columns).toList =
      some ("SELECT DISTINCT".toList ++ ' ' :: columns.toList) := by
    have ends : endsWord (' ' :: columns.toList) = true := rfl
    simp only [addDistinct, after?_select, ends, if_true]
  rw [editFirst_of_eq_some found (by simp)]
  apply String.toList_inj.mp
  simp

/-- What follows the word DISTINCT where a text begins with it. -/
def behindDistinct? (text : String) : Option String :=
  ((after? "DISTINCT".toList text.toList).filter endsWord).map String.ofList

/-- The limit goes behind a DISTINCT that the columns begin with. -/
theorem editFirst_addTop (rows : Nat) (columns : String) :
    String.ofList (editFirst (addTop rows) none ("SELECT " ++ columns).toList) =
      match behindDistinct? columns with
      | some rest => "SELECT DISTINCT TOP " ++ toString rows ++ rest
      | none => "SELECT TOP " ++ toString rows ++ " " ++ columns := by
  have step : after? " DISTINCT".toList (' ' :: columns.toList) = after? "DISTINCT".toList columns.toList := rfl
  have limit : s!" TOP {rows}" = " TOP " ++ toString rows := rfl
  have nonempty : ("SELECT " ++ columns).toList ≠ [] := by simp
  have plain : String.ofList ("SELECT".toList ++ (" TOP " ++ toString rows).toList ++ ' ' :: columns.toList) =
      "SELECT TOP " ++ toString rows ++ " " ++ columns := by
    apply String.toList_inj.mp
    simp
  unfold behindDistinct?
  cases found : after? "DISTINCT".toList columns.toList with
  | none =>
    have edited : addTop rows ("SELECT " ++ columns).toList =
        some ("SELECT".toList ++ (" TOP " ++ toString rows).toList ++ ' ' :: columns.toList) := by
      simp only [addTop, limit, after?_select, step, found]
    rw [editFirst_of_eq_some edited nonempty]
    exact plain
  | some rest =>
    cases ends : endsWord rest with
    | true =>
      have edited : addTop rows ("SELECT " ++ columns).toList =
          some ("SELECT DISTINCT".toList ++ (" TOP " ++ toString rows).toList ++ rest) := by
        simp only [addTop, limit, after?_select, step, found, ends, if_true]
      rw [editFirst_of_eq_some edited nonempty]
      apply String.toList_inj.mp
      simp [Option.filter, ends]
    | false =>
      have edited : addTop rows ("SELECT " ++ columns).toList =
          some ("SELECT".toList ++ (" TOP " ++ toString rows).toList ++ ' ' :: columns.toList) := by
        simp only [addTop, limit, after?_select, step, found, ends, Bool.false_eq_true, if_false]
      rw [editFirst_of_eq_some edited nonempty]
      simpa [Option.filter, ends] using plain

theorem behindDistinct?_distinct (columns : String) :
    behindDistinct? ("DISTINCT " ++ columns) = some (" " ++ columns) := by
  have parts : "DISTINCT " ++ columns = "DISTINCT" ++ (" " ++ columns) := by
    rw [← String.append_assoc]
    rfl
  have ends : endsWord (" " ++ columns).toList = true := by
    rw [String.toList_append]
    rfl
  simp only [behindDistinct?, parts, after?_append, Option.filter, ends, if_true, Option.map_some,
    String.ofList_toList]

end TypedSql.Keyword
