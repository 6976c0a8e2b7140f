import EtcdDruid.Utils

/-!
# Validation: `api/validation`

`ValidateEtcd` checks the object metadata (with `ValidateObjectMeta` of the API
machinery, whose errors are a parameter here) and, when the spec has a backup
store, two facts about the store: its prefix contains the object's name and
namespace, and a non-empty provider is one `StorageProviderFromInfraProvider`
knows.  Nothing else of the spec is checked: `validateEtcd_eq_nil_iff`.

`ValidateEtcdCopyBackupsTask` checks the metadata and the same two facts about
both of the task's stores, and nothing else:
`validateEtcdCopyBackupsTask_eq_nil_iff`.

The metadata check takes the object's name to `IsDNS1123Subdomain` and its
namespace to `IsDNS1123Label`, whose expressions and texts are modelled last:
a name or namespace that passes them holds no comma.
-/

namespace EtcdDruid
namespace Validation

/-- `field.ErrorType`, of which the Etcd validation uses one. -/
inductive ErrorType
  | fieldValueInvalid
  deriving DecidableEq, Repr

/-- `field.Error`, with the path as its dotted string. -/
structure FieldError where
  type : ErrorType
  field : String
  badValue : String
  detail : String
  deriving DecidableEq, Repr

/-- `field.Invalid`. -/
def invalid (field badValue detail : String) : FieldError :=
  ⟨.fieldValueInvalid, field, badValue, detail⟩

def validateStore (store : StoreSpec) (name namespace_ : String) (path : String) :
    List FieldError :=
  (if !(Go.stringsContains store.prefixPath namespace_ && Go.stringsContains store.prefixPath name)
    then [invalid (path ++ ".prefix") store.prefixPath "must contain object name and namespace"]
    else []) ++
  (match store.provider with
    | some p =>
        if p ≠ "" then
          match storageProviderFromInfraProvider store.provider with
          | .error err => [invalid (path ++ ".provider") p err.message]
          | .ok _ => []
        else []
    | none => [])

def validateEtcdSpec (spec : EtcdSpec) (name namespace_ : String) (path : String) :
    List FieldError :=
  match spec.backup.store with
  | some store => validateStore store name namespace_ (path ++ ".backup.store")
  | none => []

/-- `ValidateEtcd`, given the errors `ValidateObjectMeta` reports for the metadata. -/
def validateEtcd (objectMetaErrors : List FieldError) (etcd : Etcd) : List FieldError :=
  objectMetaErrors ++ validateEtcdSpec etcd.spec etcd.name etcd.namespace_ "spec"

/-- The store condition of the validation. -/
def StoreAccepted (store : StoreSpec) (name namespace_ : String) : Prop :=
  namespace_.toList <:+: store.prefixPath.toList ∧ name.toList <:+: store.prefixPath.toList ∧
    ∃ p, storageProviderFromInfraProvider store.provider = .ok p

theorem validateStore_eq_nil_iff (store : StoreSpec) (name namespace_ path : String) :
    validateStore store name namespace_ path = [] ↔ StoreAccepted store name namespace_ := by
  unfold validateStore StoreAccepted
  -- the provider check: an empty or missing provider always resolves
  have hprovider : (match store.provider with
      | some p =>
          if p ≠ "" then
            match storageProviderFromInfraProvider store.provider with
            | .error err => [invalid (path ++ ".provider") p err.message]
            | .ok _ => []
          else []
      | none => []) = [] ↔ ∃ p, storageProviderFromInfraProvider store.provider = .ok p := by
    rcases hp : store.provider with _ | p
    · simp [storageProviderFromInfraProvider]
    · by_cases hempty : p = ""
      · subst hempty
        simp [storageProviderFromInfraProvider]
      · dsimp only
        rw [if_pos hempty]
        cases storageProviderFromInfraProvider (some p) <;> simp
  rw [List.append_eq_nil_iff, hprovider]
  simp [Go.stringsContains, and_assoc]

/-- An Etcd passes validation exactly when its metadata does and its backup
store, if any, is accepted. -/
theorem validateEtcd_eq_nil_iff (objectMetaErrors : List FieldError) (etcd : Etcd) :
    validateEtcd objectMetaErrors etcd = [] ↔
      objectMetaErrors = [] ∧
        ∀ store, etcd.spec.backup.store = some store → StoreAccepted store etcd.name etcd.namespace_ := by
  unfold validateEtcd validateEtcdSpec
  rw [List.append_eq_nil_iff]
  cases etcd.spec.backup.store with
  | none => simp
  | some store => simp [validateStore_eq_nil_iff]

/-! ## The EtcdCopyBackupsTask resource: `api/validation/etcdcopybackupstask.go` -/

def validateEtcdCopyBackupsTaskSpec (spec : EtcdCopyBackupsTaskSpec) (name namespace_ : String)
    (path : String) : List FieldError :=
  validateStore spec.sourceStore name namespace_ (path ++ ".sourceStore") ++
    validateStore spec.targetStore name namespace_ (path ++ ".targetStore")

/-- `ValidateEtcdCopyBackupsTask`, given the errors `ValidateObjectMeta` reports
for the metadata. -/
def validateEtcdCopyBackupsTask (objectMetaErrors : List FieldError)
    (task : EtcdCopyBackupsTask) : List FieldError :=
  objectMetaErrors ++ validateEtcdCopyBackupsTaskSpec task.spec task.name task.namespace_ "spec"

/-- A task passes validation exactly when its metadata does and both stores are
accepted. -/
theorem validateEtcdCopyBackupsTask_eq_nil_iff (objectMetaErrors : List FieldError)
    (task : EtcdCopyBackupsTask) :
    validateEtcdCopyBackupsTask objectMetaErrors task = [] ↔
      objectMetaErrors = [] ∧ StoreAccepted task.spec.sourceStore task.name task.namespace_ ∧
        StoreAccepted task.spec.targetStore task.name task.namespace_ := by
  simp only [validateEtcdCopyBackupsTask, validateEtcdCopyBackupsTaskSpec, List.append_eq_nil_iff,
    validateStore_eq_nil_iff]

/-! ## Object names: `k8s.io/apimachinery/pkg/util/validation` -/

section Names

/-- A character of the class `[a-z0-9]`. -/
def isLowerAlnum (c : Char) : Bool := c.isLower || c.isDigit

/-- `dns1123LabelFmt`, `[a-z0-9]([-a-z0-9]*[a-z0-9])?`, matched against a whole
string. -/
def matchesDNS1123Label (cs : List Char) : Bool :=
  cs.head?.any isLowerAlnum && cs.getLast?.any isLowerAlnum && cs.all fun c => isLowerAlnum c || c == '-'

/-- `dns1123SubdomainFmt`, labels joined by dots, matched against a whole string. -/
def matchesDNS1123Subdomain (cs : List Char) : Bool :=
  (List.splitOn '.' cs).all matchesDNS1123Label

def dns1123LabelFmt : String := "[a-z0-9]([-a-z0-9]*[a-z0-9])?"

def dns1123LabelErrMsg : String :=
  "a lowercase RFC 1123 label must consist of lower case alphanumeric characters or '-', and must start and end with an alphanumeric character"

def dns1123LabelMaxLength : Nat := 63

def dns1123SubdomainFmt : String := dns1123LabelFmt ++ "(\\." ++ dns1123LabelFmt ++ ")*"

def dns1123SubdomainErrorMsg : String :=
  "a lowercase RFC 1123 subdomain must consist of lower case alphanumeric characters, '-' or '.', and must start and end with an alphanumeric character"

def dns1123SubdomainMaxLength : Nat := 253

/-- `MaxLenError`. -/
def maxLenError (length : Nat) : String := "must be no more than " ++ toString length ++ " characters"

/-- `RegexError`. -/
def regexError (msg fmt : String) (examples : List String) : String :=
  if examples.isEmpty then msg ++ " (regex used for validation is '" ++ fmt ++ "')"
  else msg ++ " (e.g. " ++ " or ".intercalate (examples.map fun e => "'" ++ e ++ "', ") ++
    "regex used for validation is '" ++ fmt ++ "')"

/-- `IsDNS1123Label`: the messages of the checks the value fails, its length in
bytes and the expression. -/
def isDNS1123Label (value : String) : List String :=
  (if value.utf8ByteSize > dns1123LabelMaxLength then [maxLenError dns1123LabelMaxLength] else []) ++
  (if !matchesDNS1123Label value.toList then
    [regexError dns1123LabelErrMsg dns1123LabelFmt ["my-name", "123-abc"]] else [])

/-- `IsDNS1123Subdomain`. -/
def isDNS1123Subdomain (value : String) : List String :=
  (if value.utf8ByteSize > dns1123SubdomainMaxLength then [maxLenError dns1123SubdomainMaxLength] else []) ++
  (if !matchesDNS1123Subdomain value.toList then
    [regexError dns1123SubdomainErrorMsg dns1123SubdomainFmt ["example.com"]] else [])

example : isDNS1123Subdomain "etcd-main.shoot" = [] := by decide

example : isDNS1123Label "etcd,main" ≠ [] := by decide

/-- A joined list holds only the separator and what the parts hold. -/
theorem mem_intercalate_singleton {α : Type} {x c : α} :
    ∀ {ls : List (List α)}, c ∈ [x].intercalate ls → c = x ∨ ∃ l ∈ ls, c ∈ l
  | [], h => by simp at h
  | [l], h => .inr ⟨l, List.mem_singleton_self _, by simpa using h⟩
  | l :: l' :: ls, h => by
    rw [List.intercalate_cons_cons] at h
    simp only [List.mem_append, List.mem_singleton] at h
    rcases h with (h | h) | h
    · exact .inr ⟨l, List.mem_cons_self, h⟩
    · exact .inl h
    · rcases mem_intercalate_singleton h with h | ⟨l₀, hl₀, h⟩
      · exact .inl h
      · exact .inr ⟨l₀, List.mem_cons_of_mem _ hl₀, h⟩

theorem comma_not_mem_of_matchesDNS1123Label {cs : List Char} (h : matchesDNS1123Label cs = true) :
    ',' ∉ cs := by
  simp only [matchesDNS1123Label, Bool.and_eq_true, List.all_eq_true] at h
  exact fun hc => absurd (h.2 ',' hc) (by decide)

/-- A value that passes `IsDNS1123Label` holds no comma. -/
theorem comma_not_mem_of_isDNS1123Label {value : String} (h : isDNS1123Label value = []) :
    ',' ∉ value.toList := by
  rw [isDNS1123Label, List.append_eq_nil_iff] at h
  have hm : matchesDNS1123Label value.toList = true := by
    by_contra hm
    simp [hm] at h
  exact comma_not_mem_of_matchesDNS1123Label hm

/-- A value that passes `IsDNS1123Subdomain` holds no comma: each of its labels
holds none, and the dots that join them are none. -/
theorem comma_not_mem_of_isDNS1123Subdomain {value : String} (h : isDNS1123Subdomain value = []) :
    ',' ∉ value.toList := by
  rw [isDNS1123Subdomain, List.append_eq_nil_iff] at h
  have hm : matchesDNS1123Subdomain value.toList = true := by
    by_contra hm
    simp [hm] at h
  intro hc
  rw [← @List.intercalate_splitOn _ value.toList _ _ '.'] at hc
  rcases mem_intercalate_singleton hc with h | ⟨part, hpart, hc⟩
  · exact absurd h (by decide)
  · exact comma_not_mem_of_matchesDNS1123Label (List.all_eq_true.mp hm part hpart) hc

end Names

end Validation
end EtcdDruid
