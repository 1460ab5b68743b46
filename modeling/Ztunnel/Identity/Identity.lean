/-
  Ztunnel.Identity.Identity

  SPIFFE identities (src/identity/manager.rs): the one-variant enum
  `Identity::Spiffe`, its printed form `spiffe://td/ns/NS/sa/SA` and the
  parser `Identity::from_str`.

  Strings are handled as their character lists, as Rust's `str` methods
  see them: `split('/')` is `List.splitOn` (it keeps empty pieces, as Rust
  does), `starts_with` is `List.IsPrefix`.  The prefix `spiffe://` is ASCII,
  so slicing off its nine bytes is dropping nine characters.
-/

import Mathlib.Data.List.Infix

namespace Ztunnel

/-- Rust's `str::split(c)`: the pieces between occurrences of `c`,
    empty pieces included. -/
def splitChar (s : String) (c : Char) : List String :=
  (s.toList.splitOn c).map String.ofList

/-- Splitting pieces joined by `c` gives them back when none of them has
    a `c`. -/
theorem splitChar_intercalate (c : Char) {pieces : List String} (hne : pieces ≠ [])
    (hc : ∀ p ∈ pieces, c ∉ p.toList) :
    splitChar (String.ofList ([c].intercalate (pieces.map String.toList))) c = pieces := by
  unfold splitChar
  rw [String.toList_ofList, List.splitOn_intercalate]
  · simp
  · simpa using hc
  · simpa using hne

/-- Rust's `str::starts_with(pre)`. -/
def startsWith (s pre : String) : Bool :=
  decide (pre.toList <+: s.toList)

/-- Rust's `str::split_once(c)`: the text before the first `c` and the text
    after it, or `None` when `c` does not occur. -/
def splitOnce (s : String) (c : Char) : Option (String × String) :=
  match s.toList.span (· ≠ c) with
  | (_, []) => none
  | (a, _ :: b) => some (String.ofList a, String.ofList b)

/-- Rust's `str::ends_with(suf)`. -/
def endsWith (s suf : String) : Bool :=
  decide (suf.toList <:+ s.toList)

/-- Rust's `str::strip_prefix(pre)`: the rest of `s` when it starts with
    `pre`. -/
def stripPrefix (s pre : String) : Option String :=
  if pre.toList <+: s.toList then some (String.ofList (s.toList.drop pre.toList.length))
  else none

/-- The first character that `dropWhile (· ≠ c)` keeps is `c`. -/
theorem dropWhile_ne_eq_cons {c x : Char} {b : List Char} :
    ∀ l : List Char, l.dropWhile (fun y => decide (y ≠ c)) = x :: b → x = c
  | [], h => by simp at h
  | y :: l, h => by
    by_cases hy : y = c
    · -- `y` is `c` itself, kept at the head
      simp only [List.dropWhile_cons, hy, ne_eq, not_true_eq_false, decide_false,
        Bool.false_eq_true, if_false, List.cons.injEq] at h
      exact h.1.symm
    · simp only [List.dropWhile_cons, ne_eq, hy, not_false_eq_true, decide_true, if_true] at h
      exact dropWhile_ne_eq_cons l h

/-- A split of `s` at its first `c` puts the two parts back around `c`. -/
theorem splitOnce_eq_some {s a b : String} {c : Char} (h : splitOnce s c = some (a, b)) :
    s.toList = a.toList ++ c :: b.toList := by
  unfold splitOnce at h
  rw [List.span_eq_takeWhile_dropWhile] at h
  have hs := List.takeWhile_append_dropWhile (p := fun x => decide (x ≠ c)) (l := s.toList)
  split at h
  · cases h
  · rename_i a' x b' heq
    simp only [Prod.mk.injEq] at heq
    obtain ⟨ha, hb⟩ := heq
    cases h
    rw [← hs, ha, hb, dropWhile_ne_eq_cons _ hb]
    simp

/-- Two strings with the same split at `c` are equal. -/
theorem splitOnce_injective {s t : String} {c : Char} {p : String × String}
    (hs : splitOnce s c = some p) (ht : splitOnce t c = some p) : s = t := by
  obtain ⟨a, b⟩ := p
  exact String.toList_inj.mp ((splitOnce_eq_some hs).trans (splitOnce_eq_some ht).symm)

/-- Rust's `str::contains(pat)` for a string pattern. -/
def containsStr (s pat : String) : Bool :=
  decide (pat.toList <:+: s.toList)

/-- A workload identity.  Only the SPIFFE form exists. -/
inductive Identity where
  | Spiffe (trust_domain «namespace» service_account : String)
  deriving DecidableEq, Repr

/-- Errors of the identity module that the model raises. -/
inductive IdentityError where
  /-- `Error::Spiffe`: "invalid spiffe identity: {0}". -/
  | Spiffe (s : String)
  /-- `Error::Forgotten`: "the identity is no longer needed". -/
  | Forgotten
  deriving DecidableEq, Repr

namespace Identity

/-- `to_strng`, formatted apart from `Display`. -/
def to_strng : Identity → String
  | Spiffe td ns sa => "spiffe://" ++ td ++ "/ns/" ++ ns ++ "/sa/" ++ sa

/-- `Display`, which `to_string` prints. -/
def to_string : Identity → String
  | Spiffe td ns sa => "spiffe://" ++ td ++ "/ns/" ++ ns ++ "/sa/" ++ sa

def trust_domain : Identity → String
  | Spiffe td _ _ => td

def «namespace» : Identity → String
  | Spiffe _ ns _ => ns

def service_account : Identity → String
  | Spiffe _ _ sa => sa

/-- `Identity::from_str`. -/
def from_str (s : String) : Except IdentityError Identity :=
  if !startsWith s "spiffe://" then .error (.Spiffe s)
  else
    match splitChar (String.ofList (s.toList.drop 9)) '/' with
    | [td, ns_lit, ns, sa_lit, sa] =>
      if ns_lit != "ns" || sa_lit != "sa" then .error (.Spiffe s)
      else .ok (Spiffe td ns sa)
    | _ => .error (.Spiffe s)

example : from_str "spiffe://cluster.local/ns/default/sa/bookinfo" =
    .ok (Spiffe "cluster.local" "default" "bookinfo") := by rfl

/-! ## Printing and parsing -/

theorem slash_ns : "/ns/".toList = ['/'] ++ "ns".toList ++ ['/'] := rfl

theorem slash_sa : "/sa/".toList = ['/'] ++ "sa".toList ++ ['/'] := rfl

theorem scheme_length : "spiffe://".toList.length = 9 := by decide

theorem ns_sa_literals : ("ns" != "ns" || "sa" != "sa") = false := by decide

/-- The printed form is the scheme, then the five pieces between
    slashes. -/
theorem to_string_toList (td ns sa : String) :
    (Spiffe td ns sa).to_string.toList =
      "spiffe://".toList ++
        ['/'].intercalate [td.toList, "ns".toList, ns.toList, "sa".toList, sa.toList] := by
  -- by delta: the equation lemma of the match costs more than the proof
  delta to_string
  simp only [String.toList_append, slash_ns, slash_sa, List.intercalate,
    List.intersperse, List.flatten_cons, List.flatten_nil, List.append_nil, List.append_assoc]

theorem from_str_to_string {td ns sa : String} (htd : '/' ∉ td.toList) (hns : '/' ∉ ns.toList)
    (hsa : '/' ∉ sa.toList) : from_str (Spiffe td ns sa).to_string = .ok (Spiffe td ns sa) := by
  have hpieces : splitChar (String.ofList (['/'].intercalate
      ([td, "ns", ns, "sa", sa].map String.toList))) '/' = [td, "ns", ns, "sa", sa] := by
    refine splitChar_intercalate '/' (by simp) fun p hp => ?_
    simp only [List.mem_cons, List.not_mem_nil, or_false] at hp
    rcases hp with rfl | rfl | rfl | rfl | rfl
    · exact htd
    · decide
    · exact hns
    · decide
    · exact hsa
  have hstart : startsWith (Spiffe td ns sa).to_string "spiffe://" = true := by
    unfold startsWith
    rw [to_string_toList]
    exact decide_eq_true (List.prefix_append _ _)
  -- what follows the scheme is the five pieces
  have hrest : (Spiffe td ns sa).to_string.toList.drop 9 =
      ['/'].intercalate ([td, "ns", ns, "sa", sa].map String.toList) := by
    rw [to_string_toList, ← scheme_length, List.drop_left]
    rfl
  unfold from_str
  rw [hstart, hrest, hpieces]
  simp only [Bool.not_true, Bool.false_eq_true, if_false, ns_sa_literals]

theorem to_string_of_from_str {s : String} {id : Identity} (h : from_str s = .ok id) :
    id.to_string = s := by
  unfold from_str at h
  split at h
  · cases h
  · rename_i hstart
    split at h
    · rename_i td ns_lit ns sa_lit sa hsplit
      split at h
      · cases h
      · rename_i hlit
        cases h
        obtain ⟨rfl, rfl⟩ : ns_lit = "ns" ∧ sa_lit = "sa" := by simpa using hlit
        have hmap : ∀ l : List (List Char), (l.map String.ofList).map String.toList = l := by
          intro l
          simp [List.map_map, Function.comp_def]
        -- the text after the scheme is its pieces between slashes
        have hpieces : (s.toList.drop 9).splitOn '/' =
            [td, "ns", ns, "sa", sa].map String.toList := by
          rw [← hsplit, splitChar, String.toList_ofList, hmap]
        have hrest : ['/'].intercalate ([td, "ns", ns, "sa", sa].map String.toList) =
            s.toList.drop 9 := by
          rw [← hpieces, List.intercalate_splitOn]
        have hpre : "spiffe://".toList <+: s.toList := by
          have hs : startsWith s "spiffe://" = true := by simpa using hstart
          exact of_decide_eq_true hs
        apply String.ext
        calc (Spiffe td ns sa).to_string.toList
            = "spiffe://".toList ++ ['/'].intercalate
                ([td, "ns", ns, "sa", sa].map String.toList) := to_string_toList td ns sa
          _ = "spiffe://".toList ++ s.toList.drop "spiffe://".toList.length := by
              rw [hrest, scheme_length]
          _ = s.toList := List.prefix_iff_eq_append.mp hpre
    · cases h

/-- Parsing and printing SPIFFE identities are inverse: an identity whose
    three components have no `/` parses back from its text, which
    `to_strng` gives too; and a text that parses is the text of the
    identity it parses to. -/
theorem from_str_round_trip :
    (∀ td ns sa : String, '/' ∉ td.toList → '/' ∉ ns.toList → '/' ∉ sa.toList →
      from_str (Spiffe td ns sa).to_string = .ok (Spiffe td ns sa) ∧
        (Spiffe td ns sa).to_strng = (Spiffe td ns sa).to_string) ∧
      ∀ (s : String) (id : Identity), from_str s = .ok id → id.to_string = s :=
  ⟨fun _ _ _ htd hns hsa => ⟨from_str_to_string htd hns hsa, rfl⟩,
    fun _ _ h => to_string_of_from_str h⟩

end Identity

end Ztunnel
