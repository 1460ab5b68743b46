/-
  Ztunnel.Dns.Name

  DNS names as the DNS server handles them: hickory's `Name`, by its
  labels, most specific first, and whether it is fully qualified, with
  the operations src/dns/server.rs uses, and `has_domain` and
  `trim_domain` of src/dns/name_util.rs.

  hickory is not part of the model: the methods of `Name` the code calls
  are the class `NameOps`, with the properties of them hickory's
  documentation states that the proofs use, and `has_domain` and
  `trim_domain` are proved over every instance.  The instance
  `NameOps.hickory` computes them as hickory does on the names the model
  has, for running the model on concrete names.  Labels are kept as text,
  without hickory's escaping; hickory compares names for equality without
  regard to ASCII case, while `has_domain` compares labels byte for byte.
  The limit of 255 bytes on a name, past which `append_domain` fails and
  the server's `unwrap` panics, is not modelled.
-/

import Ztunnel.Identity.Identity

namespace Ztunnel

namespace Dns

@[ext]
structure Name where
  labels : List String
  is_fqdn : Bool
  deriving DecidableEq, Repr

/-- The methods of hickory's `Name` the DNS server calls, and what
    hickory's documentation states of them: `num_labels` is the number of
    labels, a leading `*` (`is_wildcard`) not counted; `from_labels` is a
    fully qualified name of the labels given; `append_domain` puts the
    labels of the domain after those of the name, "making the new Name an
    FQDN"; `set_fqdn` sets whether the name is fully qualified, and
    nothing else. -/
class NameOps where
  /-- `Name::from_str` -/
  from_str : String → Name
  /-- `Name::from_labels` -/
  from_labels : List String → Name
  is_wildcard : Name → Bool
  num_labels : Name → Nat
  append_domain : Name → Name → Name
  into_wildcard : Name → Name
  set_fqdn : Name → Bool → Name
  /-- `to_utf8`, and `Display` -/
  to_utf8 : Name → String
  /-- `PartialEq for Name` -/
  eq_case_insensitive : Name → Name → Bool
  num_labels_le (n : Name) : num_labels n ≤ n.labels.length
  num_labels_of_not_wildcard {n : Name} :
    is_wildcard n = false → num_labels n = n.labels.length
  labels_from_labels (labels : List String) : (from_labels labels).labels = labels
  labels_append_domain (self domain : Name) :
    (append_domain self domain).labels = self.labels ++ domain.labels
  is_fqdn_append_domain (self domain : Name) : (append_domain self domain).is_fqdn = true
  labels_set_fqdn (self : Name) (val : Bool) : (set_fqdn self val).labels = self.labels
  is_fqdn_set_fqdn (self : Name) (val : Bool) : (set_fqdn self val).is_fqdn = val

namespace Name

export NameOps (from_str from_labels is_wildcard num_labels append_domain into_wildcard set_fqdn
  to_utf8 eq_case_insensitive num_labels_le num_labels_of_not_wildcard)

/-- The flag set last is the one that holds. -/
theorem set_fqdn_set_fqdn [NameOps] (n : Name) (a b : Bool) :
    (n.set_fqdn a).set_fqdn b = n.set_fqdn b := by
  refine Name.ext ?_ ?_
  · rw [NameOps.labels_set_fqdn, NameOps.labels_set_fqdn, NameOps.labels_set_fqdn]
  · rw [NameOps.is_fqdn_set_fqdn, NameOps.is_fqdn_set_fqdn]

end Name

/-! ## hickory's methods, for running the model -/

namespace Hickory

/-- `Name::from_str` on a dotted name: fully qualified when it ends with a
    dot.  Names with empty labels, which hickory refuses, are not
    modelled: their empty labels are dropped. -/
def from_str (s : String) : Name :=
  ⟨(splitChar s '.').filter (· ≠ ""), endsWith s "."⟩

def is_wildcard (self : Name) : Bool :=
  self.labels.head? == some "*"

/-- The number of labels, a leading `*` not counted. -/
def num_labels (self : Name) : Nat :=
  if is_wildcard self then self.labels.length - 1 else self.labels.length

/-- The first label replaced by `*`. -/
def into_wildcard (self : Name) : Name :=
  match self.labels with
  | [] => self
  | _ :: rest => { self with labels := "*" :: rest }

/-- The labels between dots, and a final dot when fully qualified. -/
def to_utf8 (self : Name) : String :=
  ".".intercalate self.labels ++ if self.is_fqdn then "." else ""

/-- The same labels but for ASCII case, and both fully qualified or
    neither. -/
def eq_case_insensitive (a b : Name) : Bool :=
  a.is_fqdn == b.is_fqdn && a.labels.map String.toLower == b.labels.map String.toLower

end Hickory

instance NameOps.hickory : NameOps where
  from_str := Hickory.from_str
  from_labels labels := ⟨labels, true⟩
  is_wildcard := Hickory.is_wildcard
  num_labels := Hickory.num_labels
  append_domain self domain := ⟨self.labels ++ domain.labels, true⟩
  into_wildcard := Hickory.into_wildcard
  set_fqdn self val := { self with is_fqdn := val }
  to_utf8 := Hickory.to_utf8
  eq_case_insensitive := Hickory.eq_case_insensitive
  num_labels_le n := by
    unfold Hickory.num_labels
    split <;> omega
  num_labels_of_not_wildcard hn := by simp [Hickory.num_labels, hn]
  labels_from_labels _ := rfl
  labels_append_domain _ _ := rfl
  is_fqdn_append_domain _ _ := rfl
  labels_set_fqdn _ _ := rfl
  is_fqdn_set_fqdn _ _ := rfl

section Util

variable [NameOps]

/-- `as_name`. -/
def as_name (name : String) : Name := Name.from_str name

/-- `append_name`. -/
def append_name (name1 name2 : Name) : Name := name1.append_domain name2

/-- `has_domain`: `domain` is a proper suffix of `name`, label for label. -/
def has_domain (name domain : Name) : Bool :=
  if domain.is_wildcard || name.num_labels ≤ domain.num_labels then false
  else
    let num_skip := name.labels.length - domain.labels.length
    name.labels.drop num_skip == domain.labels

/-- `trim_domain`: the labels of `name` before `domain`. -/
def trim_domain (name domain : Name) : Option Name :=
  if has_domain name domain then
    some (Name.from_labels (name.labels.take (name.labels.length - domain.num_labels)))
  else none

/-- `SVC`. -/
def SVC : Name := as_name "svc"

/-! ## Trimming a domain -/

/-- `has_domain` for a domain that is not a wildcard: the name has more
    labels than the domain, a leading `*` not counted, and ends with the
    domain's labels. -/
theorem has_domain_iff {n d : Name} (hd : d.is_wildcard = false) :
    has_domain n d = true ↔ d.labels.length < n.num_labels ∧ d.labels <:+ n.labels := by
  rw [List.suffix_iff_eq_drop]
  unfold has_domain
  rw [Name.num_labels_of_not_wildcard hd, hd, Bool.false_or]
  by_cases hlen : n.num_labels ≤ d.labels.length
  · simp only [hlen, decide_true, if_true, Bool.false_eq_true, false_iff, not_and]
    intro hlt
    omega
  · simp only [hlen, decide_false, Bool.false_eq_true, if_false, beq_iff_eq]
    constructor
    · intro h
      exact ⟨by omega, h.symm⟩
    · intro h
      exact h.2.symm

/-- The labels `trim_domain` keeps, with the domain's after them, are the
    name's. -/
theorem trim_domain_eq_some {n d : Name} (hd : d.is_wildcard = false) (h : has_domain n d = true) :
    trim_domain n d = some (Name.from_labels (n.labels.take (n.labels.length - d.labels.length))) := by
  rw [trim_domain, if_pos h, Name.num_labels_of_not_wildcard hd]

theorem has_domain_of_trim_domain {n d p : Name} (hp : trim_domain n d = some p) :
    has_domain n d = true := by
  unfold trim_domain at hp
  split at hp
  · assumption
  · cases hp

end Util

/-- The domain of the `name_util` tests, and a name in it. -/
def svcDomain : Name := as_name "svc.cluster.local"

def nameInSvc : Name := as_name "name.ns.svc.cluster.local"

end Dns

end Ztunnel
