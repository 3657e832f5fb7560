import JsonApi.Text.Basic

/-!
# Faults

What can be wrong with a request, and why a file cannot be read, as codes and
messages.
-/

/-!
## Validation errors

Everything that can be wrong with a request, one constructor per cause.  Each
error has a code for programs, a message for readers, and the name of the
query parameter it is about.
-/

namespace JsonApi

/-- A fault of a request. -/
inductive ValidationError where
  | unknownResourceType (resourceType : String)
  | unknownOperator (field operator : String)
  | invalidOperand (field operator reason : String)
  | emptyOperandList (field operator : String)
  | emptyFilterGroup (group : String)
  | unknownFilterField (resourceType field : String)
  | filterTooDeep (depth limit : Nat)
  | unsupportedSortField (resourceType field : String)
  | emptySortField
  | malformedParameter (parameter reason : String)
  | invalidPageNumber (number : Int)
  | unknownField (resourceType field : String)
  | tooManyFields (count limit : Nat)
  | unknownRelationship (path segment resourceType : String)
  | emptyIncludeSegment (path : String)
  | includeTooDeep (path : String) (depth limit : Nat)
  | tooManyIncludePaths (count limit : Nat)
deriving DecidableEq

/-- The names of a dotted path, each in brackets. -/
def bracketedPath (path : String) : String :=
  String.join ((Text.splitAt '.' path).map fun segment => "[" ++ segment ++ "]")

/-- The parameter that filters by a field. -/
def filterParameter (field : String) : String :=
  "filter" ++ bracketedPath field

namespace ValidationError

/-- The code of an error. -/
def code : ValidationError → String
  | unknownResourceType .. => "UnknownResourceType"
  | unknownOperator .. => "UnknownOperator"
  | invalidOperand .. => "InvalidOperand"
  | emptyOperandList .. => "InvalidOperand"
  | emptyFilterGroup .. => "InvalidFilter"
  | unknownFilterField .. => "UnknownFilterField"
  | filterTooDeep .. => "FilterTooDeep"
  | unsupportedSortField .. => "UnsupportedSortField"
  | emptySortField => "UnsupportedSortField"
  | malformedParameter .. => "MalformedParameter"
  | invalidPageNumber .. => "InvalidPageNumber"
  | unknownField .. => "UnknownField"
  | tooManyFields .. => "TooManyFields"
  | unknownRelationship .. => "InvalidIncludePath"
  | emptyIncludeSegment .. => "InvalidIncludePath"
  | includeTooDeep .. => "IncludeTooDeep"
  | tooManyIncludePaths .. => "TooManyIncludePaths"

/-- The query parameter that an error is about. -/
def parameter : ValidationError → String
  | unknownResourceType .. => "type"
  | unknownOperator field _ => filterParameter field
  | invalidOperand field .. => filterParameter field
  | emptyOperandList field _ => filterParameter field
  | emptyFilterGroup group => "filter[" ++ group ++ "]"
  | unknownFilterField _ field => filterParameter field
  | filterTooDeep .. => "filter"
  | unsupportedSortField .. => "sort"
  | emptySortField => "sort"
  | malformedParameter parameter _ => parameter
  | invalidPageNumber .. => "page[number]"
  | unknownField resourceType _ => "fields[" ++ resourceType ++ "]"
  | tooManyFields .. => "fields"
  | unknownRelationship .. => "include"
  | emptyIncludeSegment .. => "include"
  | includeTooDeep .. => "include"
  | tooManyIncludePaths .. => "include"

/-- The message of an error. -/
def message : ValidationError → String
  | unknownResourceType resourceType =>
      s!"unknown resource type '{resourceType}'"
  | unknownOperator field operator =>
    s!"unknown filter operator '{operator}' for field '{field}'"
  | invalidOperand field operator reason =>
      s!"operator '{operator}' on field '{field}' {reason}"
  | emptyOperandList field operator =>
    s!"operator '{operator}' on field '{field}' requires at least one value"
  | emptyFilterGroup group =>
      s!"filter group '{group}' requires at least one sub-filter"
  | unknownFilterField resourceType field =>
      s!"unknown filter field '{field}' on '{resourceType}'"
  | filterTooDeep depth limit =>
      s!"filter nesting exceeds depth {limit} (got {depth})"
  | unsupportedSortField resourceType field =>
    s!"sort field '{field}' is not supported for '{resourceType}'"
  | emptySortField => "sort parameter contains an empty field"
  | malformedParameter parameter reason =>
      s!"malformed query parameter '{parameter}': {reason}"
  | invalidPageNumber number => s!"page[number] must be >= 1 (got {number})"
  | unknownField resourceType field =>
      s!"unknown field '{field}' requested for '{resourceType}'"
  | tooManyFields count limit =>
    s!"sparse fieldsets request {count} fields, exceeding the maximum of {limit}"
  | unknownRelationship path segment resourceType =>
    s!"include path '{path}' is invalid: '{segment}' is not a relationship of '{resourceType}'"
  | emptyIncludeSegment path =>
      s!"include path '{path}' contains an empty segment"
  | includeTooDeep path depth limit =>
    s!"include path '{path}' exceeds maximum depth {limit} (got {depth})"
  | tooManyIncludePaths count limit =>
    s!"{count} include paths requested, exceeding the maximum of {limit}"

/-- The error of a request that is refused for no reason given. -/
def unspecific : ValidationError :=
  malformedParameter "query" "rejected without a specific error"

end ValidationError

/-- One or more validation errors, reported together in the order in which they
were found. -/
structure ValidationErrors where
  errors : List ValidationError
  nonempty : errors ≠ []

namespace ValidationErrors

/-- The errors of a list, unless there are none. -/
def ofList? (errors : List ValidationError) : Option ValidationErrors :=
  if absent : errors = [] then none else some ⟨errors, absent⟩

/-- A single error. -/
def single (error : ValidationError) : ValidationErrors :=
  ⟨[error], List.cons_ne_nil error []⟩

/-- The report of a request that was refused; one refused without an error is at
fault as a whole. -/
def collected (errors : List ValidationError) : ValidationErrors :=
  (ofList? errors).getD (single .unspecific)

/-- The errors of two reports, those of the first one first. -/
def append (first second : ValidationErrors) : ValidationErrors :=
  ⟨first.errors ++ second.errors, by simp [first.nonempty]⟩

/-- Whether one of the errors has the given code. -/
def containsCode (report : ValidationErrors) (code : String) : Bool :=
  report.errors.any fun error => error.code == code

/-- The messages of the errors in one line. -/
def message (report : ValidationErrors) : String :=
  "; ".intercalate (report.errors.map ValidationError.message)

/-- The value if there are no errors, and the errors otherwise. -/
def unlessAny
    {α : Type}
    (errors : List ValidationError)
    (value : α) :
    Except ValidationErrors α :=
  match ofList? errors with
  | some report => .error report
  | none => .ok value

/-- There is a value exactly when there are no errors. -/
theorem unlessAny_eq_ok_iff
    {α : Type}
    {errors : List ValidationError}
    {value result : α} :
    unlessAny errors value = .ok result ↔ errors = [] ∧ value = result := by
  cases errors <;> simp [unlessAny, ofList?]

theorem unlessAny_eq_error_iff
    {α : Type}
    {errors : List ValidationError}
    {value : α}
    {report : ValidationErrors} :
    unlessAny errors value = .error report ↔
      errors ≠ [] ∧ report.errors = errors := by
  rcases report with ⟨reported, nonempty⟩
  cases errors <;> simp [unlessAny, ofList?, nonempty, eq_comm]

/-- A report of some errors holds these and no other. -/
theorem errors_collected
    {errors : List ValidationError}
    (some : errors ≠ []) :
    (collected errors).errors = errors := by
  rw [collected, ofList?, dif_neg some]
  rfl

end ValidationErrors

/-!
## Faults of reading a file
-/

/-- Why a file could not be read. -/
inductive FileFault where
  /-- There is no such file. -/
  | notFound
  /-- The file may not be read. -/
  | notPermitted
  /-- The path names a directory. -/
  | isDirectory
  /-- The bytes of the file are no text. -/
  | notText
  /-- Another fault, as the system tells it. -/
  | other (description : String)
deriving DecidableEq

/-- The message of a fault. -/
def FileFault.message : FileFault → String
  | notFound => "No such file or directory (os error 2)"
  | notPermitted => "Permission denied (os error 13)"
  | isDirectory => "Is a directory (os error 21)"
  | notText => "stream did not contain valid UTF-8"
  | other description => description

end JsonApi
