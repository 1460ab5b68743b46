/-
  Ztunnel.Proxy.Baggage

  The baggage header, by which a proxy tells the other end of an HBONE
  tunnel who the source is: outbound, `baggage` (src/proxy/outbound.rs)
  writes the source workload's cluster, namespace, workload, service,
  revision and locality as `key=value` members separated by commas; the
  header value is built from that text when the request is; inbound,
  `parse_baggage_header` (src/baggage.rs) reads the members back from
  every header value, and `build_inbound_request` falls back to an empty
  `Baggage` when it fails.

  A header value is modelled by its text, whose UTF-8 bytes it holds.  The
  `http` crate is not part of the model: its checks are the class
  `HeaderValueChecks`, with what its documentation states of them, and
  the results hold for every instance.  An ASCII character is one byte
  and any other character bytes of 128 and more, so the checks are made on
  the characters.  A value received whose bytes are not UTF-8 fails
  `to_str` as one with a character past ASCII does.  The instance
  `HeaderValueChecks.http` makes the checks of the crate's source: it
  refuses control characters but tab in a value, and `to_str` accepts
  visible ASCII and tab only.
-/

import Ztunnel.Identity.Identity
import Ztunnel.State.Workload

namespace Ztunnel

structure HeaderValue where
  text : String
  deriving DecidableEq, Repr

structure InvalidHeaderValue where
  deriving DecidableEq, Repr

structure ToStrError where
  deriving DecidableEq, Repr

/-- The `http` crate's checks of a header value, with what its
    documentation states of them: `HeaderValue::try_from(String)` keeps a
    text whose bytes may all be in a header value (`is_valid`);
    `HeaderValue::to_str` gives the text back when its bytes are all
    visible ASCII (`is_visible_ascii`), and fails otherwise.  Visible ASCII
    holds the characters 32 to 126, and may be in a header value. -/
class HeaderValueChecks where
  is_valid : Char → Bool
  is_visible_ascii : Char → Bool
  try_from : String → Except InvalidHeaderValue HeaderValue
  to_str : HeaderValue → Except ToStrError String
  visible_of_ascii : ∀ c : Char, 32 ≤ c.toNat → c.toNat < 127 → is_visible_ascii c = true
  valid_of_visible : ∀ c, is_visible_ascii c = true → is_valid c = true
  try_from_of_valid : ∀ s : String, s.toList.all is_valid = true → try_from s = .ok ⟨s⟩
  to_str_of_visible : ∀ hv : HeaderValue,
    hv.text.toList.all is_visible_ascii = true → to_str hv = .ok hv.text
  to_str_of_not_visible : ∀ hv : HeaderValue,
    hv.text.toList.all is_visible_ascii = false → to_str hv = .error ⟨⟩

export HeaderValueChecks (is_valid is_visible_ascii)

namespace HeaderValue

export HeaderValueChecks (try_from to_str)

end HeaderValue

namespace Http

/-- `is_valid` of the crate's `header/value.rs`. -/
def is_valid (c : Char) : Bool := (32 ≤ c.toNat && c.toNat != 127) || c == '\t'

/-- `is_visible_ascii` of the crate's `header/value.rs`. -/
def is_visible_ascii (c : Char) : Bool := (32 ≤ c.toNat && c.toNat < 127) || c == '\t'

def try_from (s : String) : Except InvalidHeaderValue HeaderValue :=
  if s.toList.all is_valid then .ok ⟨s⟩ else .error ⟨⟩

def to_str (self : HeaderValue) : Except ToStrError String :=
  if self.text.toList.all is_visible_ascii then .ok self.text else .error ⟨⟩

end Http

/-- The checks as the crate's source makes them. -/
instance HeaderValueChecks.http : HeaderValueChecks where
  is_valid := Http.is_valid
  is_visible_ascii := Http.is_visible_ascii
  try_from := Http.try_from
  to_str := Http.to_str
  visible_of_ascii c h32 h127 := by
    simp [Http.is_visible_ascii, h32, h127]
  valid_of_visible c h := by
    simp only [Http.is_visible_ascii, Http.is_valid, Bool.or_eq_true, Bool.and_eq_true,
      decide_eq_true_eq, bne_iff_ne, ne_eq] at h ⊢
    rcases h with ⟨h32, h127⟩ | htab
    · exact .inl ⟨h32, by omega⟩
    · exact .inr htab
  try_from_of_valid _ h := if_pos h
  to_str_of_visible _ h := if_pos h
  to_str_of_not_visible _ h := if_neg (by simp [h])

structure Baggage where
  cluster_id : Option String
  «namespace» : Option String
  workload_name : Option String
  service_name : Option String
  revision : Option String
  region : Option String
  zone : Option String
  deriving DecidableEq, Repr

namespace Baggage

def default : Baggage := ⟨none, none, none, none, none, none, none⟩

/-- The field a member's key sets. -/
def setField (baggage : Baggage) (key : String) (val : Option String) : Baggage :=
  match key with
  | "k8s.cluster.name" => { baggage with cluster_id := val }
  | "k8s.namespace.name" => { baggage with «namespace» := val }
  | "k8s.deployment.name" | "k8s.cronjob.name" | "k8s.pod.name" | "k8s.job.name" =>
    { baggage with workload_name := val }
  | "service.name" => { baggage with service_name := val }
  | "service.version" => { baggage with revision := val }
  | "cloud.region" => { baggage with region := val }
  | "cloud.availability_zone" => { baggage with zone := val }
  | _ => baggage

/-- The value a member's text gives: none when it is empty. -/
def memberValue (value : String) : Option String :=
  match value with
  | "" => none
  | s => some s

/-- One member of a header value: its text split at `=`, a key and a value
    when there are two parts or more.  A value is what stands between the
    first `=` and the second. -/
def parseMember (baggage : Baggage) (s : String) : Baggage :=
  match splitChar s '=' with
  | key :: value :: _ => baggage.setField key (memberValue value)
  | _ => baggage

/-- The body of the loop over the header values: a value that is not
    visible ASCII ends the parse with its error. -/
def parseHeaderValue [HeaderValueChecks] (baggage : Baggage) (hv : HeaderValue) : Except ToStrError Baggage := do
  let v ← hv.to_str
  pure ((splitChar v ',').foldl parseMember baggage)

end Baggage

/-- `parse_baggage_header`: the members of every header value in turn. -/
def parse_baggage_header [HeaderValueChecks] (headers : List HeaderValue) : Except ToStrError Baggage :=
  headers.foldlM Baggage.parseHeaderValue Baggage.default

/-- The baggage `build_inbound_request` uses: the parsed one, or the
    default when a header value is not visible ASCII. -/
def inbound_baggage [HeaderValueChecks] (headers : List HeaderValue) : Baggage :=
  match parse_baggage_header headers with
  | .ok baggage => baggage
  | .error _ => Baggage.default

/-- `baggage(r, cluster)`, of the request's source workload. -/
def baggage (source : Workload) (cluster : String) : String :=
  "k8s.cluster.name=" ++ cluster ++ ",k8s.namespace.name=" ++ source.namespace ++ ",k8s." ++
    source.workload_type ++ ".name=" ++ source.workload_name ++ ",service.name=" ++
    source.canonical_name ++ ",service.version=" ++ source.canonical_revision ++
    ",cloud.region=" ++ source.locality.region ++ ",cloud.availability_zone=" ++
    source.locality.zone

/-- The baggage header of `send_hbone_request`: a text `http` refuses
    makes the request builder fail, and the `expect` on it panic. -/
def baggage_header [HeaderValueChecks] (source : Workload) (cluster : String) : Except String HeaderValue :=
  match HeaderValue.try_from (baggage source cluster) with
  | .ok hv => .ok hv
  | .error _ => .error "builder with known status code should not fail"

/-! ## Reading the members back -/

/-- The fields of `Baggage`. -/
inductive BaggageField where
  | cluster_id
  | «namespace»
  | workload_name
  | service_name
  | revision
  | region
  | zone
  deriving DecidableEq, Repr

/-- The keys whose members set the field. -/
def BaggageField.keys : BaggageField → List String
  | .cluster_id => ["k8s.cluster.name"]
  | .namespace => ["k8s.namespace.name"]
  | .workload_name => ["k8s.deployment.name", "k8s.cronjob.name", "k8s.pod.name", "k8s.job.name"]
  | .service_name => ["service.name"]
  | .revision => ["service.version"]
  | .region => ["cloud.region"]
  | .zone => ["cloud.availability_zone"]

/-- A key or a value that reads back as itself: no separator of the
    header, and visible ASCII. -/
def isPlain [HeaderValueChecks] (s : String) : Bool :=
  s.toList.all fun c => c != ',' && c != '=' && is_visible_ascii c

/-- The text of a member. -/
def member (m : String × String) : String := m.1 ++ "=" ++ m.2

/-- The text of a header value made of members. -/
def members (ms : List (String × String)) : String := ",".intercalate (ms.map member)

namespace Baggage

def get (b : Baggage) : BaggageField → Option String
  | .cluster_id => b.cluster_id
  | .namespace => b.namespace
  | .workload_name => b.workload_name
  | .service_name => b.service_name
  | .revision => b.revision
  | .region => b.region
  | .zone => b.zone

/-- The member of `ms` that decides field `f`: the last with one of its
    keys. -/
def lastMember (f : BaggageField) (ms : List (String × String)) : Option (String × String) :=
  ms.reverse.find? fun m => m.1 ∈ f.keys

theorem ext_get {a b : Baggage} (h : ∀ f, a.get f = b.get f) : a = b := by
  cases a
  cases b
  congr
  exacts [h .cluster_id, h .namespace, h .workload_name, h .service_name, h .revision,
    h .region, h .zone]

@[simp] theorem get_default (f : BaggageField) : default.get f = none := by
  cases f <;> rfl

/-- A key sets the fields it names and no other. -/
theorem get_setField (b : Baggage) (key : String) (val : Option String) (f : BaggageField) :
    (b.setField key val).get f = if key ∈ f.keys then val else b.get f := by
  unfold setField
  split <;> cases f <;> simp_all [get, BaggageField.keys]

theorem lastMember_append_singleton (f : BaggageField) (ms : List (String × String))
    (m : String × String) :
    lastMember f (ms ++ [m]) = if m.1 ∈ f.keys then some m else lastMember f ms := by
  simp only [lastMember, List.reverse_append, List.reverse_singleton, List.singleton_append,
    List.find?_cons]
  by_cases hkey : m.1 ∈ f.keys <;> simp [hkey]

end Baggage

theorem isPlain_iff [HeaderValueChecks] (s : String) :
    isPlain s ↔ ',' ∉ s.toList ∧ '=' ∉ s.toList ∧ s.toList.all is_visible_ascii := by
  simp only [isPlain, List.all_eq_true, Bool.and_eq_true, bne_iff_ne, ne_eq]
  constructor
  · intro h
    exact ⟨fun hc => (h _ hc).1.1 rfl, fun hc => (h _ hc).1.2 rfl, fun c hc => (h c hc).2⟩
  · rintro ⟨hcomma, heq, hvis⟩ c hc
    exact ⟨⟨fun e => hcomma (e ▸ hc), fun e => heq (e ▸ hc)⟩, hvis c hc⟩

theorem members_no_comma [HeaderValueChecks] {ms : List (String × String)} (h : ∀ m ∈ ms, isPlain m.1 ∧ isPlain m.2) :
    ∀ m ∈ ms, ',' ∉ m.1.toList ∧ ',' ∉ m.2.toList := fun m hm =>
  ⟨((isPlain_iff _).mp (h m hm).1).1, ((isPlain_iff _).mp (h m hm).2).1⟩

theorem members_no_eq [HeaderValueChecks] {ms : List (String × String)} (h : ∀ m ∈ ms, isPlain m.1 ∧ isPlain m.2) :
    ∀ m ∈ ms, '=' ∉ m.1.toList ∧ '=' ∉ m.2.toList := fun m hm =>
  ⟨((isPlain_iff _).mp (h m hm).1).2.1, ((isPlain_iff _).mp (h m hm).2).2.1⟩

theorem splitChar_member {m : String × String} (h1 : '=' ∉ m.1.toList) (h2 : '=' ∉ m.2.toList) :
    splitChar (member m) '=' = [m.1, m.2] := by
  have hjoin : String.ofList (['='].intercalate ([m.1, m.2].map String.toList)) = member m := by
    apply String.ext
    simp [member]
  rw [← hjoin]
  exact splitChar_intercalate '=' (by simp) (by simp [h1, h2])

theorem parseMember_member (b : Baggage) {m : String × String} (h1 : '=' ∉ m.1.toList)
    (h2 : '=' ∉ m.2.toList) : b.parseMember (member m) = b.setField m.1 (Baggage.memberValue m.2) := by
  rw [Baggage.parseMember, splitChar_member h1 h2]

/-- The loop over the members: each field holds the value of the last
    member with one of its keys, and the value it had before them when
    there is none. -/
theorem get_foldl_parseMember (b : Baggage) {ms : List (String × String)}
    (hms : ∀ m ∈ ms, '=' ∉ m.1.toList ∧ '=' ∉ m.2.toList) (f : BaggageField) :
    ((ms.map member).foldl Baggage.parseMember b).get f =
      match Baggage.lastMember f ms with
      | some m => Baggage.memberValue m.2
      | none => b.get f := by
  -- from the end of the list: the last member read is the one that counts
  induction ms using List.reverseRecOn with
  | nil => rfl
  | append_singleton ms m ih =>
    have hm := hms m (by simp)
    have ih := ih fun m' hm' => hms m' (by simp [hm'])
    rw [List.map_append, List.foldl_append, List.map_singleton, List.foldl_cons, List.foldl_nil,
      parseMember_member _ hm.1 hm.2, Baggage.get_setField,
      Baggage.lastMember_append_singleton]
    split_ifs
    · rfl
    · exact ih

/-! ## Header values made of members -/

theorem members_cons_cons (m m' : String × String) (ms : List (String × String)) :
    members (m :: m' :: ms) = member m ++ "," ++ members (m' :: ms) := by
  simp only [members, List.map_cons, String.intercalate_cons_cons]

/-- A check of every character of a header value made of members, where
    both separators pass it: a check of every key and every value. -/
theorem all_members {p : Char → Bool} (hcomma : p ',') (heq : p '=') :
    ∀ ms : List (String × String),
      (members ms).toList.all p = ms.all fun m => m.1.toList.all p && m.2.toList.all p
  | [] => rfl
  | [m] => by simp [members, member, List.all_append, heq]
  | m :: m' :: ms => by
    rw [members_cons_cons, String.toList_append, String.toList_append, List.all_append,
      List.all_append, all_members hcomma heq (m' :: ms)]
    simp [member, List.all_append, hcomma, heq, Bool.and_assoc]

theorem members_visible [HeaderValueChecks] {ms : List (String × String)}
    (h : ∀ m ∈ ms, isPlain m.1 ∧ isPlain m.2) : (members ms).toList.all is_visible_ascii := by
  rw [all_members (HeaderValueChecks.visible_of_ascii ',' (by decide) (by decide))
    (HeaderValueChecks.visible_of_ascii '=' (by decide) (by decide)), List.all_eq_true]
  intro m hm
  rw [((isPlain_iff _).mp (h m hm).1).2.2, ((isPlain_iff _).mp (h m hm).2).2.2]
  rfl

theorem to_str_members [HeaderValueChecks] {ms : List (String × String)}
    (h : ∀ m ∈ ms, isPlain m.1 ∧ isPlain m.2) :
    HeaderValue.to_str ⟨members ms⟩ = .ok (members ms) :=
  HeaderValueChecks.to_str_of_visible _ (members_visible h)

theorem splitChar_members {ms : List (String × String)} (hne : ms ≠ [])
    (h : ∀ m ∈ ms, ',' ∉ m.1.toList ∧ ',' ∉ m.2.toList) :
    splitChar (members ms) ',' = ms.map member := by
  have hjoin : String.ofList ([','].intercalate ((ms.map member).map String.toList)) =
      members ms := by
    apply String.ext
    simp [members, String.toList_intercalate]
  rw [← hjoin]
  refine splitChar_intercalate ',' (by simpa using hne) fun p hp => ?_
  obtain ⟨m, hm, rfl⟩ := List.mem_map.mp hp
  simp [member, (h m hm).1, (h m hm).2]

theorem parseHeaderValue_of_to_str [HeaderValueChecks] (b : Baggage) {hv : HeaderValue} {v : String}
    (h : hv.to_str = .ok v) :
    b.parseHeaderValue hv = .ok ((splitChar v ',').foldl Baggage.parseMember b) := by
  rw [Baggage.parseHeaderValue, h]
  rfl

/-- One header value: its members read in turn, the empty value having
    one empty member, which sets nothing. -/
theorem parseHeaderValue_members [HeaderValueChecks] (b : Baggage) {ms : List (String × String)}
    (h : ∀ m ∈ ms, isPlain m.1 ∧ isPlain m.2) :
    b.parseHeaderValue ⟨members ms⟩ = .ok ((ms.map member).foldl Baggage.parseMember b) := by
  rw [parseHeaderValue_of_to_str b (to_str_members h)]
  cases ms with
  | nil => rfl
  | cons m ms => rw [splitChar_members (List.cons_ne_nil m ms) (members_no_comma h)]

/-- The loop over the header values: all the members, in order. -/
theorem foldlM_parseHeaderValue [HeaderValueChecks] (b : Baggage) (values : List (List (String × String)))
    (h : ∀ m ∈ values.flatten, isPlain m.1 ∧ isPlain m.2) :
    (values.map fun ms => (⟨members ms⟩ : HeaderValue)).foldlM Baggage.parseHeaderValue b =
      .ok ((values.flatten.map member).foldl Baggage.parseMember b) := by
  induction values generalizing b with
  | nil => rfl
  | cons ms values ih =>
    have hms : ∀ m ∈ ms, isPlain m.1 ∧ isPlain m.2 := fun m hm =>
      h m (List.mem_flatten_of_mem List.mem_cons_self hm)
    have hrest : ∀ m ∈ values.flatten, isPlain m.1 ∧ isPlain m.2 := fun m hm =>
      h m (by simp only [List.flatten_cons, List.mem_append]; exact .inr hm)
    rw [List.map_cons, List.foldlM_cons, parseHeaderValue_members b hms, List.flatten_cons,
      List.map_append, List.foldl_append]
    exact ih _ hrest

theorem parse_baggage_header_members [HeaderValueChecks] (values : List (List (String × String)))
    (h : ∀ m ∈ values.flatten, isPlain m.1 ∧ isPlain m.2) :
    parse_baggage_header (values.map fun ms => ⟨members ms⟩) =
      .ok ((values.flatten.map member).foldl Baggage.parseMember Baggage.default) :=
  foldlM_parseHeaderValue Baggage.default values h

/-- Header values made of members whose keys and values are plain: each
    field is the value of the last member, over all the header values,
    with one of its keys, and none when that value is empty or there is no
    such member. -/
theorem parse_baggage_header_last_member [HeaderValueChecks] (values : List (List (String × String)))
    (hplain : ∀ m ∈ values.flatten, isPlain m.1 ∧ isPlain m.2) :
    ∃ b, parse_baggage_header (values.map fun ms => ⟨members ms⟩) = .ok b ∧
      ∀ f, b.get f = (Baggage.lastMember f values.flatten).bind fun m => Baggage.memberValue m.2 := by
  refine ⟨_, parse_baggage_header_members values hplain, fun f => ?_⟩
  rw [get_foldl_parseMember _ (members_no_eq hplain)]
  rcases Baggage.lastMember f values.flatten with _ | m
  · simp
  · rfl

theorem parse_baggage_header_last_member_twoValues :
    (∀ m ∈ [[("k8s.cluster.name", "K1"), ("k8s.pod.name", "P1")],
        [("k8s.job.name", "J1"), ("k8s.cluster.name", "")]].flatten, isPlain m.1 ∧ isPlain m.2) ∧
      ∃ b, parse_baggage_header ([[("k8s.cluster.name", "K1"), ("k8s.pod.name", "P1")],
          [("k8s.job.name", "J1"), ("k8s.cluster.name", "")]].map fun ms => ⟨members ms⟩) = .ok b ∧
        ∀ f, b.get f = (Baggage.lastMember f [[("k8s.cluster.name", "K1"), ("k8s.pod.name", "P1")],
          [("k8s.job.name", "J1"), ("k8s.cluster.name", "")]].flatten).bind
            fun m => Baggage.memberValue m.2 :=
  ⟨by decide, parse_baggage_header_last_member _ (by decide)⟩

/-- Members as the W3C grammar writes them, which the parser reads
    otherwise: a property after `;` stays in the value, a space before a
    key makes it another key, and an `=` in a value ends it. -/
theorem parse_baggage_header_w3c_members :
    parse_baggage_header [⟨"k8s.namespace.name=NS1;prop=x"⟩, ⟨" k8s.cluster.name=K1"⟩,
        ⟨"service.name=a=b"⟩] =
      .ok { Baggage.default with «namespace» := some "NS1;prop", service_name := some "a" } := by
  decide

/-! ## The outbound baggage read back -/

/-- The members `baggage` writes, in order. -/
def baggageMembers (source : Workload) (cluster : String) : List (String × String) :=
  [("k8s.cluster.name", cluster), ("k8s.namespace.name", source.namespace),
    ("k8s." ++ source.workload_type ++ ".name", source.workload_name),
    ("service.name", source.canonical_name), ("service.version", source.canonical_revision),
    ("cloud.region", source.locality.region), ("cloud.availability_zone", source.locality.zone)]

theorem baggage_eq_members (source : Workload) (cluster : String) :
    baggage source cluster = members (baggageMembers source cluster) := by
  delta baggage
  apply String.ext
  simp only [members, member, baggageMembers, List.map_cons, List.map_nil,
    String.toList_intercalate, List.intercalate_cons_cons, List.intercalate_singleton,
    String.toList_append, String.reduceToList, List.append_assoc, List.cons_append,
    List.nil_append]

/-- A text of the characters 32 to 126 is visible ASCII. -/
theorem all_visible_of_ascii [HeaderValueChecks] {l : List Char}
    (h : ∀ c ∈ l, 32 ≤ c.toNat ∧ c.toNat < 127) : l.all is_visible_ascii := by
  refine List.all_eq_true.mpr fun c hc => ?_
  obtain ⟨h32, h127⟩ := h c hc
  exact HeaderValueChecks.visible_of_ascii c h32 h127

theorem all_is_valid_of_visible [HeaderValueChecks] {s : String} (h : s.toList.all is_visible_ascii) :
    s.toList.all is_valid := by
  simp only [List.all_eq_true] at h ⊢
  exact fun c hc => HeaderValueChecks.valid_of_visible c (h c hc)

/-- A text `http` takes: the request is built with it. -/
theorem baggage_header_eq_ok [HeaderValueChecks] {source : Workload} {cluster : String}
    (h : (baggage source cluster).toList.all is_valid) :
    baggage_header source cluster = .ok ⟨baggage source cluster⟩ := by
  -- by delta: the equation lemmas of the two would have Lean evaluate the literals
  delta baggage_header
  rw [HeaderValueChecks.try_from_of_valid _ h]

theorem parse_baggage_header_of_to_str_error [HeaderValueChecks] {hv : HeaderValue} {e : ToStrError}
    (h : hv.to_str = .error e) (rest : List HeaderValue) :
    parse_baggage_header (hv :: rest) = .error e := by
  have hfirst : Baggage.default.parseHeaderValue hv = .error e := by
    rw [Baggage.parseHeaderValue, h]
    rfl
  rw [parse_baggage_header, List.foldlM_cons, hfirst]
  rfl

/-- A header `http` takes with a character `to_str` refuses: the request
    is built, the peer's parse fails, and the peer keeps no baggage. -/
theorem baggage_header_not_visible [HeaderValueChecks] {source : Workload} {cluster : String}
    (hvalid : (baggage source cluster).toList.all is_valid)
    (hnot : (baggage source cluster).toList.all is_visible_ascii = false) :
    ∃ hv, baggage_header source cluster = .ok hv ∧ parse_baggage_header [hv] = .error ⟨⟩ ∧
      inbound_baggage [hv] = Baggage.default := by
  have hto : HeaderValue.to_str ⟨baggage source cluster⟩ = .error ⟨⟩ :=
    HeaderValueChecks.to_str_of_not_visible _ hnot
  have hparse := parse_baggage_header_of_to_str_error hto []
  refine ⟨⟨baggage source cluster⟩, baggage_header_eq_ok hvalid, hparse, ?_⟩
  rw [inbound_baggage, hparse]

/-- Visible ASCII without the separators is plain: visible ASCII is what
    the documentation has `to_str` accept. -/
theorem isPlain_of_ascii [HeaderValueChecks] {s : String}
    (h : s.toList.all fun c => 32 ≤ c.toNat && c.toNat < 127 && c != ',' && c != '=') :
    isPlain s := by
  simp only [isPlain, List.all_eq_true, Bool.and_eq_true, decide_eq_true_eq] at h ⊢
  intro c hc
  obtain ⟨⟨⟨h32, h127⟩, hcomma⟩, heq⟩ := h c hc
  exact ⟨⟨hcomma, heq⟩, HeaderValueChecks.visible_of_ascii c h32 h127⟩

/-- The four workload types the parser knows give the workload-name key. -/
theorem workload_key_keys [HeaderValueChecks] {t : String} (ht : t ∈ ["deployment", "cronjob", "pod", "job"]) :
    isPlain ("k8s." ++ t ++ ".name") ∧
      ∀ f : BaggageField, ("k8s." ++ t ++ ".name" ∈ f.keys ↔ f = .workload_name) := by
  simp only [List.mem_cons, List.not_mem_nil, or_false] at ht
  rcases ht with rfl | rfl | rfl | rfl <;>
    exact ⟨isPlain_of_ascii (by decide), fun f => by cases f <;> decide⟩

/-- Every key and value `baggage` writes is plain, for plain values and a
    workload type the parser knows. -/
theorem baggageMembers_plain [HeaderValueChecks] {source : Workload} {cluster : String}
    (hplain : ∀ v ∈ [cluster, source.namespace, source.workload_name, source.canonical_name,
      source.canonical_revision, source.locality.region, source.locality.zone], isPlain v)
    (htype : source.workload_type ∈ ["deployment", "cronjob", "pod", "job"]) :
    ∀ m ∈ baggageMembers source cluster, isPlain m.1 ∧ isPlain m.2 := by
  simp only [List.mem_cons, List.not_mem_nil, or_false, forall_eq_or_imp, forall_eq] at hplain
  obtain ⟨hcluster, hns, hwn, hcn, hcr, hregion, hzone⟩ := hplain
  intro m hm
  simp only [baggageMembers, List.mem_cons, List.not_mem_nil, or_false] at hm
  rcases hm with rfl | rfl | rfl | rfl | rfl | rfl | rfl
  · exact ⟨(isPlain_of_ascii (by decide) : isPlain "k8s.cluster.name"), hcluster⟩
  · exact ⟨(isPlain_of_ascii (by decide) : isPlain "k8s.namespace.name"), hns⟩
  · exact ⟨(workload_key_keys htype).1, hwn⟩
  · exact ⟨(isPlain_of_ascii (by decide) : isPlain "service.name"), hcn⟩
  · exact ⟨(isPlain_of_ascii (by decide) : isPlain "service.version"), hcr⟩
  · exact ⟨(isPlain_of_ascii (by decide) : isPlain "cloud.region"), hregion⟩
  · exact ⟨(isPlain_of_ascii (by decide) : isPlain "cloud.availability_zone"), hzone⟩

/-- The members `baggage` writes, read back: each field gets its value. -/
theorem foldl_baggageMembers {source : Workload} {cluster : String}
    (htype : source.workload_type ∈ ["deployment", "cronjob", "pod", "job"])
    (heq : ∀ m ∈ baggageMembers source cluster, '=' ∉ m.1.toList ∧ '=' ∉ m.2.toList) :
    ((baggageMembers source cluster).map member).foldl Baggage.parseMember Baggage.default =
      ⟨Baggage.memberValue cluster, Baggage.memberValue source.namespace,
        Baggage.memberValue source.workload_name, Baggage.memberValue source.canonical_name,
        Baggage.memberValue source.canonical_revision,
        Baggage.memberValue source.locality.region, Baggage.memberValue source.locality.zone⟩ := by
  refine Baggage.ext_get fun f => ?_
  rw [get_foldl_parseMember _ heq]
  simp only [List.mem_cons, List.not_mem_nil, or_false] at htype
  -- whatever the workload type, the seven keys are of seven different fields
  rcases htype with ht | ht | ht | ht <;> cases f <;>
    simp [Baggage.lastMember, baggageMembers, BaggageField.keys, Baggage.get, ht]

/-- The baggage a proxy sends, read back by its peer: for a source whose
    values are plain and whose workload type is one the parser knows, the
    request is built, and the parse gives each value back, none for an
    empty one. -/
theorem baggage_round_trip [HeaderValueChecks] (source : Workload) (cluster : String)
    (hplain : ∀ v ∈ [cluster, source.namespace, source.workload_name, source.canonical_name,
      source.canonical_revision, source.locality.region, source.locality.zone], isPlain v)
    (htype : source.workload_type ∈ ["deployment", "cronjob", "pod", "job"]) :
    ∃ hv, baggage_header source cluster = .ok hv ∧
      parse_baggage_header [hv] = .ok
        ⟨Baggage.memberValue cluster, Baggage.memberValue source.namespace,
          Baggage.memberValue source.workload_name, Baggage.memberValue source.canonical_name,
          Baggage.memberValue source.canonical_revision,
          Baggage.memberValue source.locality.region, Baggage.memberValue source.locality.zone⟩ := by
  have hmembers := baggageMembers_plain hplain htype
  have hvis : (baggage source cluster).toList.all is_visible_ascii := by
    rw [baggage_eq_members]
    exact members_visible hmembers
  refine ⟨⟨baggage source cluster⟩, baggage_header_eq_ok (all_is_valid_of_visible hvis), ?_⟩
  have hparse := parse_baggage_header_members [baggageMembers source cluster]
    (by simpa using hmembers)
  rw [List.flatten_singleton, foldl_baggageMembers htype (members_no_eq hmembers),
    List.map_singleton, ← baggage_eq_members] at hparse
  exact hparse

/-- A source workload of the bookinfo sample. -/
def reviewsV1 : Workload where
  workload_ips := [.V4 0x0a000005]
  waypoint := none
  network_gateway := none
  protocol := .HBONE
  network_mode := .Standard
  uid := "Kubernetes//Pod/bookinfo/reviews-v1-7b9f8"
  name := "reviews-v1-7b9f8"
  «namespace» := "bookinfo"
  trust_domain := "cluster.local"
  service_account := "bookinfo-reviews"
  network := ""
  workload_name := "reviews-v1"
  workload_type := "deployment"
  canonical_name := "reviews"
  canonical_revision := "v1"
  hostname := ""
  node := "node-1"
  native_tunnel := false
  application_tunnel := none
  authorization_policies := []
  status := .Healthy
  cluster_id := "Kubernetes"
  locality := ⟨"us-west1", "us-west1-a", ""⟩
  services := []
  capacity := 1

theorem baggage_round_trip_reviewsV1 :
    (∀ v ∈ ["Kubernetes", reviewsV1.namespace, reviewsV1.workload_name, reviewsV1.canonical_name,
      reviewsV1.canonical_revision, reviewsV1.locality.region, reviewsV1.locality.zone],
        isPlain v) ∧
      reviewsV1.workload_type ∈ ["deployment", "cronjob", "pod", "job"] ∧
      ∃ hv, baggage_header reviewsV1 "Kubernetes" = .ok hv ∧
        parse_baggage_header [hv] = .ok
          ⟨Baggage.memberValue "Kubernetes", Baggage.memberValue reviewsV1.namespace,
            Baggage.memberValue reviewsV1.workload_name,
            Baggage.memberValue reviewsV1.canonical_name,
            Baggage.memberValue reviewsV1.canonical_revision,
            Baggage.memberValue reviewsV1.locality.region,
            Baggage.memberValue reviewsV1.locality.zone⟩ :=
  ⟨by decide, by decide, baggage_round_trip reviewsV1 "Kubernetes" (by decide) (by decide)⟩

/-- The same source in a region whose name is not ASCII. -/
def reviewsZurich : Workload := { reviewsV1 with locality := ⟨"zürich", "zürich-1", ""⟩ }

/-- `http` takes the header of a source in a region whose name is not
    ASCII, `to_str` refuses it, and the peer keeps no baggage at all. -/
theorem baggage_round_trip_reviewsZurich :
    ∃ hv, baggage_header reviewsZurich "Kubernetes" = .ok hv ∧
      parse_baggage_header [hv] = .error ⟨⟩ ∧ inbound_baggage [hv] = Baggage.default :=
  baggage_header_not_visible
    (by rw [baggage_eq_members, all_members (by decide) (by decide)]; decide)
    (by rw [baggage_eq_members, all_members (by decide) (by decide)]; decide)

end Ztunnel
