import Mathlib.Data.List.Basic
import SqlBatch.Processor

/-!
# Columns by name

A name that is compared without case stands for the first column that it fits:
`reads_first_fitting`. That is the column of exactly this name unless another one that fits comes
before it.
-/
namespace SqlBatch

/-! ### The first that fits -/

theorem sameIgnoringCase_refl (s : String) : sameIgnoringCase s s = true :=
  decide_eq_true rfl

theorem findIdx?_eq_of_fits {columns : List String} {fits : String → Bool} {position : Nat}
    (found : columns.findIdx? fits = some position) :
    ∃ first, columns.find? fits = some first ∧
      columns.findIdx? (· = first) = some position := by
  obtain ⟨inside, fit, before⟩ := List.findIdx?_eq_some_iff_getElem.mp found
  refine ⟨columns[position], ?_, ?_⟩
  · refine List.find?_eq_some_iff_getElem.mpr ⟨fit, position, inside, rfl, ?_⟩
    intro earlier less
    simpa using before earlier less
  · refine List.findIdx?_eq_some_iff_getElem.mpr ⟨inside, decide_eq_true rfl, ?_⟩
    intro earlier less same
    have named := of_decide_eq_true same
    exact before earlier less (named ▸ fit)

theorem find?_eq_iff_no_rival (fits : String → Bool) {columns : List String} {name : String}
    (listed : name ∈ columns) (fit : fits name = true) :
    columns.find? fits = some name ↔
      ∀ rival ∈ columns.takeWhile (· ≠ name), fits rival = false := by
  induction columns with
  | nil => cases listed
  | cons column rest ih =>
    by_cases exact : column = name
    · subst exact
      simp [fit]
    · have later : name ∈ rest := (List.mem_cons.mp listed).resolve_left fun same => exact same.symm
      cases rival : fits column with
      | true => simp [exact, rival]
      | false => simp [exact, rival, ih later]

/-! ### Readings -/

/-- The same value, or an error for the same reason; errors may differ in what they call the
column. -/
inductive SameReading {α : Type} : Except Error α → Except Error α → Prop
  | value (a : α) : SameReading (.ok a) (.ok a)
  | fault (column column' reason : String) :
      SameReading (.error (.column column reason)) (.error (.column column' reason))

namespace Row

variable {α : Type} {convert : SqlValue → Except ConversionFault α} {row : Row}

theorem sameReading_read {index index' : ColumnIndex}
    (same : row.value? index = row.value? index') :
    SameReading (row.read convert index) (row.read convert index') := by
  unfold read
  rw [same]
  cases row.value? index' with
  | none => exact .fault ..
  | some value =>
    dsimp only
    cases convert value with
    | ok a => exact .value a
    | error fault => exact .fault ..

theorem value?_ordinal {position : Nat} {name : String}
    (found : row.columns.findIdx? (· = name) = some position) :
    row.value? (.ordinal position) = row.value? (.name name) := by
  obtain ⟨inside, -⟩ := List.findIdx?_eq_some_iff_getElem.mp found
  simp only [value?, ColumnIndex.position?, found, if_pos inside]

end Row

/-- Where there is a column of exactly this name, a name without case reads as the first column
that it fits does under its own name. That is the exact match if no column in front of it fits as
well. -/
theorem reads_first_fitting {α : Type} (convert : SqlValue → Except ConversionFault α) (row : Row)
    {name : String} (listed : name ∈ row.columns) :
    ∃ first, row.columns.find? (sameIgnoringCase · name) = some first ∧
      SameReading (row.readNamed convert .ignoringCase name) (row.readNamed convert .exact first) ∧
      (first = name ↔
        ∀ rival ∈ row.columns.takeWhile (· ≠ name), sameIgnoringCase rival name = false) := by
  have fit := sameIgnoringCase_refl name
  obtain ⟨position, found⟩ : ∃ position,
      row.columns.findIdx? (sameIgnoringCase · name) = some position := by
    rw [← Option.isSome_iff_exists, List.findIdx?_isSome, List.any_eq_true]
    exact ⟨name, listed, fit⟩
  obtain ⟨first, first_fits, its_own⟩ := findIdx?_eq_of_fits found
  refine ⟨first, first_fits, ?_, ?_⟩
  · simp only [Row.readNamed, Row.readIgnoringCase, found]
    exact Row.sameReading_read (Row.value?_ordinal its_own)
  · rw [← find?_eq_iff_no_rival (sameIgnoringCase · name) listed fit, first_fits,
      Option.some.injEq]

theorem reads_first_fitting_shadowed :
    let row : Row := ⟨["n", "ID", "id"], [.null, .int 1, .text "x"]⟩
    let convert : SqlValue → Except ConversionFault Int64 := fromSql
    "id" ∈ row.columns ∧ row.readNamed convert .ignoringCase "id" = .ok 1 ∧
      SameReading (row.readNamed convert .ignoringCase "id")
        (row.readNamed convert .exact "ID") := by
  intro row convert
  have listed : "id" ∈ row.columns := by decide
  obtain ⟨first, found, same, -⟩ := reads_first_fitting convert row listed
  obtain rfl : first = "ID" := (Option.some.inj found).symm
  exact ⟨listed, by decide, same⟩

/-- The policies part on values where a rival comes first, and on errors anywhere. -/
theorem rival_shadows_exact_match :
    let row : Row := ⟨["ID", "id", "name"], [.int 1, .int 2, .text "x"]⟩
    let convert : SqlValue → Except ConversionFault Int64 := fromSql
    row.readNamed convert .exact "id" = .ok 2 ∧
      row.readNamed convert .ignoringCase "id" = .ok 1 ∧
      row.readNamed convert .ignoringCase "name" ≠ row.readNamed convert .exact "name" := by
  decide

end SqlBatch
