import QuicMix.Foundations.Lists
import QuicMix.Foundations.Text
import Mathlib.Data.List.Nodup
import Mathlib.Data.List.Perm.Basic

namespace QuicMix
namespace Ingress

open Foundations

/-!
# Header fields that do not cross the proxy

`forward` strips the fields of one hop from a request before it is sent on and
from the response before it is returned.  `strip_hop_by_hop` removes a fixed
list of names.  A sender may declare further fields to belong to the hop by
naming them in a `Connection` field; these are not looked up.
-/

/-- The name of a field, in lower case. -/
@[ext]
structure HeaderName where
  text : Text
  nonempty : text ≠ []
  lower_eq : text.lower = text
  deriving DecidableEq

/-- A table of fields.  Each name occurs once, with all its values in the order
of their arrival; a value is given by the characters of its bytes. -/
structure HeaderMap where
  entries : List (HeaderName × List Text)
  distinct : (entries.map Prod.fst).Nodup

/-- `Vec::swap_remove`: the last entry takes the place of the removed one. -/
def swapRemove {Entry : Type} (entries : List Entry) (index : Nat) : List Entry :=
  match entries.getLast? with
  | none => entries
  | some last => (entries.set index last).dropLast

theorem swapRemove_perm {Entry : Type} {entries : List Entry} {index : Nat} {entry : Entry}
    (located : entries[index]? = some entry) :
    (swapRemove entries index).Perm (entries.eraseIdx index) := by
  rcases split_at located with ⟨before, after, rfl, written, erased⟩
  rw [erased, swapRemove]
  rcases List.eq_nil_or_concat' after with rfl | ⟨middle, last, rfl⟩
  · rw [List.getLast?_concat]
    simp only [written, List.dropLast_concat, List.append_nil]
    exact List.Perm.refl before
  · have ends : (before ++ entry :: (middle ++ [last])).getLast? = some last := by
      rw [← List.cons_append, ← List.append_assoc, List.getLast?_concat]
    rw [ends]
    simp only [written]
    rw [← List.cons_append, ← List.append_assoc, List.dropLast_concat]
    exact List.Perm.append_left before (List.perm_append_singleton last middle).symm

theorem nodup_swapRemove {Entry Label : Type} {entries : List Entry} {label : Entry -> Label}
    (distinct : (entries.map label).Nodup) (index : Nat) :
    ((swapRemove entries index).map label).Nodup := by
  cases located : entries[index]? with
  | some entry =>
      apply ((swapRemove_perm located).map label).nodup_iff.mpr
      exact distinct.sublist ((List.eraseIdx_sublist entries index).map label)
  | none =>
      rw [swapRemove]
      cases entries.getLast? with
      | none => exact distinct
      | some last =>
          simp only [List.set_eq_of_length_le (List.getElem?_eq_none_iff.mp located)]
          exact distinct.sublist ((List.dropLast_sublist entries).map label)

/-- Where labels are distinct, removing an entry removes its label. -/
theorem mem_without {Entry Label : Type} {before after : List Entry} {removed entry : Entry}
    {label : Entry -> Label} (distinct : ((before ++ removed :: after).map label).Nodup) :
    entry ∈ before ++ after <->
      entry ∈ before ++ removed :: after ∧ label entry ≠ label removed := by
  have moved : (before ++ removed :: after).Perm (removed :: (before ++ after)) :=
    List.perm_middle
  have absent := (List.nodup_cons.mp ((moved.map label).nodup_iff.mp distinct)).1
  rw [moved.mem_iff, List.mem_cons]
  constructor
  · intro member
    refine ⟨.inr member, ?_⟩
    intro same
    exact absent (same ▸ List.mem_map_of_mem member)
  · rintro ⟨rfl | member, other⟩
    · exact absurd rfl other
    · exact member

namespace HeaderMap

/-- The entry of a name. -/
def find (headers : HeaderMap) (name : Text) : Option Nat :=
  headers.entries.findIdx? (fun entry => entry.1.text = name)

/-- Remove a field with all its values. -/
def remove (headers : HeaderMap) (name : Text) : HeaderMap :=
  match headers.find name with
  | none => headers
  | some index => ⟨swapRemove headers.entries index, nodup_swapRemove headers.distinct index⟩

/-- The other fields stay, each with all its values. -/
theorem mem_remove {headers : HeaderMap} {name : Text} {entry : HeaderName × List Text} :
    entry ∈ (headers.remove name).entries <-> entry ∈ headers.entries ∧ entry.1.text ≠ name := by
  rw [remove]
  cases found : headers.find name with
  | none =>
      have absent := List.findIdx?_eq_none_iff.mp found
      refine (and_iff_left_of_imp ?_).symm
      intro member same
      exact absurd (absent entry member) (by simp only [same, decide_true, Bool.true_eq_false,
        not_false_eq_true])
  | some index =>
      rcases List.findIdx?_eq_some_iff_getElem.mp found with ⟨bound, named, _⟩
      have located : headers.entries[index]? = some headers.entries[index] :=
        List.getElem?_eq_getElem bound
      have isName : headers.entries[index].1.text = name := of_decide_eq_true named
      change entry ∈ swapRemove headers.entries index <-> _
      rw [(swapRemove_perm located).mem_iff]
      generalize headers.entries[index] = removed at located isName
      have distinct := headers.distinct
      rcases split_at located with ⟨before, after, split, _, erased⟩
      rw [split] at distinct
      rw [erased, split, mem_without distinct, ← isName, ne_eq, HeaderName.ext_iff]

end HeaderMap

/-- The names that `strip_hop_by_hop` removes. -/
def hopByHop : List Text :=
  ["connection", "keep-alive", "proxy-connection", "proxy-authenticate", "proxy-authorization",
    "te", "trailer", "transfer-encoding", "content-length", "upgrade"].map String.toList

def stripHopByHop (headers : HeaderMap) : HeaderMap :=
  hopByHop.foldl HeaderMap.remove headers

/-! ## What has to be stripped -/

def isOws (char : Char) : Bool :=
  char == ' ' || char == '\t'

/-- The elements of a comma-separated list, without the blanks around them and
in lower case. -/
def options (value : Text) : List Text :=
  (value.splitOn ',').map (fun element =>
    Text.lower ((element.dropWhile isOws).reverse.dropWhile isOws).reverse)

/-- Some `Connection` value names the field. -/
def Nominated (headers : HeaderMap) (name : HeaderName) : Prop :=
  exists entry, entry ∈ headers.entries ∧ entry.1.text = "connection".toList ∧
    exists value, value ∈ entry.2 ∧ name.text ∈ options value

/-- The fields of the hop are gone, and every other field is there with all its
values in their order. -/
def Stripped (before after : HeaderMap) : Prop :=
  forall entry, entry ∈ after.entries <->
    entry ∈ before.entries ∧ entry.1.text ∉ hopByHop ∧ ¬ Nominated before entry.1

theorem mem_foldl_remove {headers : HeaderMap} {names : List Text}
    {entry : HeaderName × List Text} :
    entry ∈ (names.foldl HeaderMap.remove headers).entries <->
      entry ∈ headers.entries ∧ entry.1.text ∉ names := by
  induction names generalizing headers with
  | nil => simp only [List.foldl_nil, List.not_mem_nil, not_false_eq_true, and_true]
  | cons name rest inductionHypothesis =>
      rw [List.foldl_cons, inductionHypothesis, HeaderMap.mem_remove, List.mem_cons, not_or,
        and_assoc]

/-- Exactly the fields of the fixed list are removed. -/
theorem mem_stripHopByHop {headers : HeaderMap} {entry : HeaderName × List Text} :
    entry ∈ (stripHopByHop headers).entries <->
      entry ∈ headers.entries ∧ entry.1.text ∉ hopByHop :=
  mem_foldl_remove

/-- Stripping is right exactly if the `Connection` values nominate no field of
the message outside the fixed list. -/
theorem stripped_iff (headers : HeaderMap) :
    Stripped headers (stripHopByHop headers) <->
      forall entry, entry ∈ headers.entries -> Nominated headers entry.1 ->
        entry.1.text ∈ hopByHop := by
  constructor
  · intro stripped entry member nominated
    by_contra outside
    exact ((stripped entry).mp (mem_stripHopByHop.mpr ⟨member, outside⟩)).2.2 nominated
  · intro inside entry
    rw [mem_stripHopByHop]
    constructor
    · rintro ⟨member, outside⟩
      exact ⟨member, outside, fun nominated => outside (inside entry member nominated)⟩
    · rintro ⟨member, outside, _⟩
      exact ⟨member, outside⟩

def secretName : HeaderName := ⟨"x-secret".toList, by decide, by decide⟩

/-- A field that the client declares to belong to its hop. -/
def secretHeaders : HeaderMap where
  entries := [(⟨"connection".toList, by decide, by decide⟩, ["close, X-Secret".toList]),
    (secretName, ["1".toList])]
  distinct := by decide

/-- The declared field crosses the proxy. -/
theorem not_stripped_secret :
    Nominated secretHeaders secretName ∧
      (secretName, ["1".toList]) ∈ (stripHopByHop secretHeaders).entries ∧
      ¬ Stripped secretHeaders (stripHopByHop secretHeaders) := by
  have nominated : Nominated secretHeaders secretName :=
    ⟨_, List.mem_cons_self, rfl, _, List.mem_cons_self, by decide⟩
  have member : ((secretName, ["1".toList]) : HeaderName × List Text) ∈
      (stripHopByHop secretHeaders).entries :=
    mem_stripHopByHop.mpr ⟨List.mem_cons_of_mem _ List.mem_cons_self, by decide⟩
  refine ⟨nominated, member, ?_⟩
  intro stripped
  exact ((stripped _).mp member).2.2 nominated

end Ingress
end QuicMix
