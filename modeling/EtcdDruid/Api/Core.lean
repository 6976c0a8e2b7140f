import EtcdDruid.Api.Types

/-!
# The `corev1` objects etcd-druid builds

Pods, jobs and services are written as Go struct literals; the model keeps the
fields that some property reads: names, ports, environment variables, volumes
and their mounts, container arguments and the readiness probe.  An environment
variable takes its value from a literal, a field of the pod, or a key of a
secret; a volume is a config map, a secret, a host path or an empty directory.

`Path.IsUnder p m` is the relation "file `p` lies in the directory a mount at
`m` makes visible": `m` itself, or below it, whether `m` carries a trailing
slash or not.
-/

namespace EtcdDruid

/-- `corev1.EnvVar`, with `Value` and `ValueFrom` as one sum. -/
inductive EnvVarSource
  | value (v : String)
  | fieldRef (fieldPath : String)
  | secretKeyRef (secretName key : String)
  deriving DecidableEq, Repr

structure EnvVar where
  name : String
  source : EnvVarSource
  deriving DecidableEq, Repr

/-- `corev1.VolumeSource`, for the four kinds the code builds. -/
inductive VolumeSource
  | configMap (name : String) (items : List (String × String)) (defaultMode : Int32)
  | secret (secretName : String)
  | hostPath (path : String)
  | emptyDir
  deriving DecidableEq, Repr

structure Volume where
  name : String
  source : VolumeSource
  deriving DecidableEq, Repr

structure VolumeMount where
  name : String
  mountPath : String
  deriving DecidableEq, Repr

structure ContainerPort where
  name : String
  protocol : String
  containerPort : Int32
  deriving DecidableEq, Repr

inductive URIScheme
  | HTTP
  | HTTPS
  deriving DecidableEq, Repr

/-- `corev1.HTTPGetAction` of a readiness probe. -/
structure HTTPGetAction where
  path : String
  port : Int
  scheme : URIScheme
  deriving DecidableEq, Repr

structure Container where
  name : String
  args : List String
  ports : List ContainerPort
  env : List EnvVar
  volumeMounts : List VolumeMount
  readinessProbe : Option HTTPGetAction
  deriving DecidableEq, Repr

structure PodSpec where
  initContainers : List Container
  containers : List Container
  volumes : List Volume
  deriving DecidableEq, Repr

structure ServicePort where
  name : String
  port : Int32
  targetPort : Int
  deriving DecidableEq, Repr

/-- `getEnvVarFromValue` and its copies in the controllers. -/
def getEnvVarFromValue (name value : String) : EnvVar := ⟨name, .value value⟩

def getEnvVarFromField (name fieldPath : String) : EnvVar := ⟨name, .fieldRef fieldPath⟩

def getEnvVarFromSecrets (name secretName secretKey : String) : EnvVar :=
  ⟨name, .secretKeyRef secretName secretKey⟩

/-- The secret a volume or a variable reads, if any. -/
def VolumeSource.secretName? : VolumeSource → Option String
  | .secret s => some s
  | _ => none

def EnvVarSource.secretName? : EnvVarSource → Option String
  | .secretKeyRef s _ => some s
  | _ => none

/-- `%d` of an `int32`. -/
def fmtInt32 (n : Int32) : String := toString n.toInt

/-! ## Paths -/

/-- A mount path without its trailing slashes. -/
def Path.trim (m : String) : String :=
  String.ofList ((m.toList.reverse.dropWhile (· = '/')).reverse)

/-- The file `p` is visible through a mount at `m`. -/
def Path.IsUnder (p m : String) : Prop :=
  p = Path.trim m ∨ (Path.trim m ++ "/").toList <+: p.toList

instance (p m : String) : Decidable (Path.IsUnder p m) :=
  inferInstanceAs (Decidable (_ ∨ _))

/-- A trailing slash does not change the directory a mount makes visible. -/
theorem Path.trim_append_slash (s : String) : Path.trim (s ++ "/") = Path.trim s := by
  simp [Path.trim, String.toList_append, List.reverse_append]

/-- A path that does not end in a slash is its own trimmed form. -/
theorem Path.trim_of_getLast {s : String} {c : Char} (hc : s.toList.getLast? = some c)
    (hslash : c ≠ '/') : Path.trim s = s := by
  obtain ⟨rest, hrev⟩ : ∃ rest, s.toList.reverse = c :: rest := by
    rw [List.getLast?_eq_head?_reverse] at hc
    cases h : s.toList.reverse with
    | nil => simp [h] at hc
    | cons d rest => simp only [h, List.head?_cons, Option.some.injEq] at hc; exact ⟨rest, hc ▸ rfl⟩
  have hdrop : s.toList.reverse.dropWhile (· = '/') = s.toList.reverse := by
    rw [hrev, List.dropWhile_cons_of_neg (by simpa using hslash)]
  simp [Path.trim, hdrop]

/-- A path ends in the last character of its last part. -/
theorem Path.getLast?_append {s u : String} {c : Char} (hc : u.toList.getLast? = some c) :
    (s ++ u).toList.getLast? = some c := by
  rw [String.toList_append, List.getLast?_append, hc, Option.some_or]

/-- A directory is visible through a mount of it with a trailing slash. -/
theorem Path.isUnder_append_slash {s : String} {c : Char} (hc : s.toList.getLast? = some c)
    (hslash : c ≠ '/') : Path.IsUnder s (s ++ "/") := by
  left
  rw [Path.trim_append_slash, Path.trim_of_getLast hc hslash]

/-- So is every file below it. -/
theorem Path.isUnder_below {s : String} {c : Char} (hc : s.toList.getLast? = some c)
    (hslash : c ≠ '/') (t : String) : Path.IsUnder (s ++ "/" ++ t) (s ++ "/") := by
  right
  rw [Path.trim_append_slash, Path.trim_of_getLast hc hslash]
  exact (String.toList_append (s := s ++ "/") (t := t)) ▸ List.prefix_append _ _

end EtcdDruid
