import Mathlib.Data.List.Infix

/-!
# Errors

Go errors as trees: a leaf has a text, `fmt.Errorf` with a `%w` verb puts text
before and after a cause, and `errors.Join` combines two errors. The errors of
the Kubernetes API that the code asks about (`IsNotFound`) and of commands (the
exit code) are leaves of their own.
-/

namespace Lvms

/-- The `%q` verb, for texts without characters to escape. -/
def quoted (text : String) : String :=
  "\"" ++ text ++ "\""

/-- The `%v` verb for a list of texts. -/
def goList (texts : List String) : String :=
  "[" ++ " ".intercalate texts ++ "]"

/-- `strings.Contains`. -/
def stringsContains (text part : String) : Bool :=
  decide (part.toList <:+: text.toList)

/-- `strings.HasPrefix`. -/
def stringsHasPrefix (text start : String) : Bool :=
  start.toList.isPrefixOf text.toList

/-- `strings.TrimPrefix`. -/
def stringsTrimPrefix (text start : String) : String :=
  if stringsHasPrefix text start then
    String.ofList (text.toList.drop start.toList.length)
  else text

theorem stringsTrimPrefix_append (start rest : String) :
    stringsTrimPrefix (start ++ rest) start = rest := by
  simp [stringsTrimPrefix, stringsHasPrefix]

theorem stringsHasPrefix_append (start rest : String) :
    stringsHasPrefix (start ++ rest) start = true := by
  simp [stringsHasPrefix]

theorem exists_append_of_stringsHasPrefix
    {text start : String}
    (starts : stringsHasPrefix text start = true) :
    ∃ rest, text = start ++ rest := by
  obtain ⟨rest, isText⟩ := List.isPrefixOf_iff_prefix.mp starts
  refine ⟨String.ofList rest, String.toList_injective ?_⟩
  rw [String.toList_append, String.toList_ofList, isText]

/-- `strings.ToLower`, for ASCII texts. -/
def stringsToLower (text : String) : String :=
  String.ofList (text.toList.map Char.toLower)

/-- A Go error value. -/
inductive GoError
  | new (text : String)
  | notFound (text : String)
  | exit (code : Int) (text : String)
  | wrap (before : String) (cause : GoError) (after : String)
  | join (first second : GoError)
  deriving DecidableEq, Repr

namespace GoError

/-- The text of an error. -/
def error : GoError → String
  | .new text => text
  | .notFound text => text
  | .exit _ text => text
  | .wrap before cause after => before ++ cause.error ++ after
  | .join first second => first.error ++ "\n" ++ second.error

/-- `fmt.Errorf("<text>: %w", cause)`. -/
def wrapped (text : String) (cause : GoError) : GoError :=
  .wrap (text ++ ": ") cause ""

/-- `errors.Is`: some error of the tree is the target. -/
def is : GoError → GoError → Bool
  | .wrap before cause after, target =>
      .wrap before cause after == target || cause.is target
  | .join first second, target =>
      .join first second == target || first.is target || second.is target
  | leaf, target => leaf == target

@[simp] theorem is_self (error : GoError) : error.is error = true := by
  cases error <;> simp [is]

/-- `apierrors.IsNotFound`: some error of the tree is a not-found status. -/
def isNotFound : GoError → Bool
  | .notFound _ => true
  | .wrap _ cause _ => cause.isNotFound
  | .join first second => first.isNotFound || second.isNotFound
  | _ => false

/-- `exec.AsExecError` followed by `ExitCode`. -/
def exitCode : GoError → Option Int
  | .exit code _ => some code
  | .wrap _ cause _ => cause.exitCode
  | .join first second => first.exitCode <|> second.exitCode
  | _ => none

/-- `errors.Join` of a list: nothing is no error. -/
def joinAll : List GoError → Option GoError
  | [] => none
  | first :: rest =>
      match joinAll rest with
      | none => some first
      | some others => some (.join first others)

theorem joinAll_eq_none_iff (errors : List GoError) :
    joinAll errors = none ↔ errors = [] := by
  cases errors with
  | nil => simp [joinAll]
  | cons first rest =>
      simp only [joinAll, reduceCtorEq, iff_false]
      split <;> simp

end GoError
end Lvms
