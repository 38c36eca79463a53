import SqlBatch.Dialect.Custom
import SqlBatch.Processor

/-!
# Configurations

Settings as they stand in a configuration file, and how dialects, transactions and the matching of
names are read from them. A key that is missing takes its default, a key that is unknown is passed
over, and a value of the wrong kind refuses the whole configuration.
-/
namespace SqlBatch

/-- A tree of settings; what no configuration asks for is `other`. -/
inductive Setting
  | null
  | bool (b : Bool)
  | text (s : String)
  | list (items : List Setting)
  | table (entries : List (String × Setting))
  | other

namespace Setting

/-- The fields of a record: by their keys in a table, or by their places in a list that is no
longer than the record. -/
def fields? (keys : List String) : Setting → Option (String → Option Setting)
  | .table entries => some fun key => (entries.find? (·.1 = key)).map (·.2)
  | .list items =>
    if items.length ≤ keys.length then
      some fun key => ((keys.zip items).find? (·.1 = key)).map (·.2)
    else none
  | _ => none

/-- A field, or its default when it is missing. -/
def fieldOr {α : Type} (read : Setting → Option α) (default : α) : Option Setting → Option α
  | none => some default
  | some setting => read setting

def text? : Setting → Option String
  | .text s => some s
  | _ => none

def bool? : Setting → Option Bool
  | .bool b => some b
  | _ => none

def character? : Setting → Option Char
  | .text s => match s.toList with
    | [c] => some c
    | _ => none
  | _ => none

def orNull {α : Type} (read : Setting → Option α) : Setting → Option (Option α)
  | .null => some none
  | setting => (read setting).map some

/-- One of several names, alone or as the only key of a table that holds nothing under it. -/
def choice? {α : Type} (names : List (String × α)) (setting : Setting) : Option α :=
  let find (s : String) := (names.find? (·.1 = s)).map (·.2)
  match setting with
  | .text s => find s
  | .table [(s, .null)] => find s
  | _ => none

end Setting

/-! ### Names -/

def Paging.names : List (String × Paging) :=
  [("fetch_first", .fetchFirst), ("top", .top), ("limit", .limit),
    ("limit_with_offset", .limitWithOffset), ("row_number", .rowNumber),
    ("row_number_automatic", .rowNumberAutomatic)]

def OutputStyle.names : List (String × OutputStyle) :=
  [("none", .none), ("output", .output), ("returning", .returning)]

def BooleanLiterals.names : List (String × BooleanLiterals) :=
  [("keywords", .keywords), ("numeric", .numeric)]

def TransactionSyntax.names : List (String × TransactionSyntax) :=
  [("start_transaction", .startTransaction), ("begin_with_modes", .beginWithModes),
    ("set_then_begin", .setThenBegin)]

def IsolationLevel.names : List (String × IsolationLevel) :=
  [("read_uncommitted", .readUncommitted), ("read_committed", .readCommitted),
    ("repeatable_read", .repeatableRead), ("serializable", .serializable),
    ("snapshot", .snapshot)]

def NameMatching.names : List (String × NameMatching) :=
  [("exact", .exact), ("case_insensitive", .ignoringCase)]

/-- The name of a choice. -/
def nameIn {α : Type} [DecidableEq α] (names : List (String × α)) (a : α) : String :=
  ((names.find? (·.2 = a)).map (·.1)).getD ""

/-! ### Configurations -/

def QuotePair.read? : Setting → Option QuotePair
  | .list [opening, closing] => do
    some ⟨← opening.character?, ← closing.character?⟩
  | _ => none

namespace DialectConfig

def keys : List String :=
  ["name", "identifier_quote", "parameter_prefix", "pagination", "supports_offset",
    "output_style", "boolean_literals", "transaction_syntax", "concat_operator"]

def read? (setting : Setting) : Option DialectConfig := do
  let field ← setting.fields? keys
  let standard : DialectConfig := {}
  some
    { name := ← Setting.fieldOr Setting.text? standard.name (field "name")
      identifierQuote := ←
        Setting.fieldOr (Setting.orNull QuotePair.read?) standard.identifierQuote
          (field "identifier_quote")
      parameterPrefix := ←
        Setting.fieldOr Setting.text? standard.parameterPrefix (field "parameter_prefix")
      paging := ←
        Setting.fieldOr (Setting.choice? Paging.names) standard.paging (field "pagination")
      supportsOffset := ←
        Setting.fieldOr Setting.bool? standard.supportsOffset (field "supports_offset")
      outputStyle := ←
        Setting.fieldOr (Setting.choice? OutputStyle.names) standard.outputStyle
          (field "output_style")
      booleanLiterals := ←
        Setting.fieldOr (Setting.choice? BooleanLiterals.names) standard.booleanLiterals
          (field "boolean_literals")
      transactionSyntax := ←
        Setting.fieldOr (Setting.choice? TransactionSyntax.names) standard.transactionSyntax
          (field "transaction_syntax")
      concatOperator := ←
        Setting.fieldOr Setting.text? standard.concatOperator (field "concat_operator") }

end DialectConfig

def NameMatching.read? (setting : Setting) : Option NameMatching := do
  let field ← setting.fields? ["column_matching"]
  Setting.fieldOr (Setting.choice? NameMatching.names) .exact (field "column_matching")

def TransactionOptions.read? (setting : Setting) : Option TransactionOptions := do
  let field ← setting.fields? ["isolation", "read_only"]
  let isolation ← Setting.fieldOr (Setting.orNull (Setting.choice? IsolationLevel.names)) none
    (field "isolation")
  let readOnly ← Setting.fieldOr Setting.bool? false (field "read_only")
  some ⟨isolation, readOnly⟩

/-- The transaction that a batch runs in, if any. -/
def TransactionOptions.readForBatch? (setting : Setting) : Option (Option TransactionOptions) := do
  let field ← setting.fields? ["transaction"]
  Setting.fieldOr (Setting.orNull TransactionOptions.read?) none (field "transaction")

end SqlBatch
