import QuicMix.Foundations.Schedule
import Mathlib.Data.List.Nodup

namespace QuicMix
namespace Foundations

universe u v

/-!
# Tables whose entries expire

A table keeps one entry for each key, and an entry carries the time at which it
was written.  Reading such a table usually removes what has expired, so that
the table is a lossy account of what was written to it.  `Reflects` compares it
with the whole history of writes, at a given reading of the clock: what is in
the table is the latest write under its key, and a latest write that is still
fresh is in the table.  Writing and pruning keep this, whatever else was pruned
before, and it is all that a later reader can observe.
-/

variable {Entry : Type u} {Key : Type v} {key : Entry -> Key}

/-- A finite map from keys to entries that carry their own key. -/
structure Table (key : Entry -> Key) where
  entries : List Entry
  distinct : (entries.map key).Nodup

namespace Table

def empty : Table key where
  entries := []
  distinct := List.nodup_nil

/-- Keep the entries that pass a test. -/
def retain (table : Table key) (keep : Entry -> Bool) : Table key where
  entries := table.entries.filter keep
  distinct := table.distinct.sublist (List.Sublist.map key List.filter_sublist)

theorem mem_retain {table : Table key} {keep : Entry -> Bool} {entry : Entry} :
    entry ∈ (table.retain keep).entries <-> entry ∈ table.entries ∧ keep entry = true :=
  List.mem_filter

variable [DecidableEq Key]

/-- Write an entry; it replaces the one under its key. -/
def insert (table : Table key) (entry : Entry) : Table key where
  entries := table.entries.filter (fun other => decide (key other ≠ key entry)) ++ [entry]
  distinct := by
    rw [List.map_append]
    refine List.nodup_append.mpr ⟨?_, List.nodup_singleton _, ?_⟩
    · exact table.distinct.sublist (List.Sublist.map key List.filter_sublist)
    · intro left kept right new same
      rw [List.map_singleton, List.mem_singleton] at new
      rcases List.mem_map.mp kept with ⟨other, member, named⟩
      have apart := of_decide_eq_true (List.mem_filter.mp member).2
      exact apart (named.trans (same.trans new))

theorem mem_insert {table : Table key} {entry other : Entry} :
    other ∈ (table.insert entry).entries <->
      (other ∈ table.entries ∧ key other ≠ key entry) ∨ other = entry := by
  simp only [insert, List.mem_append, List.mem_filter, decide_eq_true_eq, List.mem_singleton]

/-- The entry under a key. -/
def get (table : Table key) (wanted : Key) : Option Entry :=
  table.entries.find? (fun entry => decide (key entry = wanted))

theorem mem_of_get {table : Table key} {wanted : Key} {entry : Entry}
    (found : table.get wanted = some entry) : entry ∈ table.entries ∧ key entry = wanted :=
  ⟨List.mem_of_find?_eq_some found,
    of_decide_eq_true (List.find?_some (p := fun entry => decide (key entry = wanted)) found)⟩

theorem get_eq_none {table : Table key} {wanted : Key} :
    table.get wanted = none <-> wanted ∉ table.entries.map key := by
  simp only [get, List.find?_eq_none, decide_eq_true_eq, List.mem_map, not_exists, not_and]

/-- Under a new key nothing is replaced. -/
theorem insert_of_absent {table : Table key} {entry : Entry}
    (absent : key entry ∉ table.entries.map key) :
    (table.insert entry).entries = table.entries ++ [entry] := by
  have kept : table.entries.filter (fun other => decide (key other ≠ key entry)) =
      table.entries := by
    apply List.filter_eq_self.mpr
    intro other member
    apply decide_eq_true
    intro same
    exact absent (List.mem_map.mpr ⟨other, member, same⟩)
  exact congrArg (fun entries => entries ++ [entry]) kept

end Table

variable [DecidableEq Key]

/-- The most recent entry of a history under a key. -/
def latest (key : Entry -> Key) (history : List Entry) (wanted : Key) : Option Entry :=
  history.reverse.find? (fun entry => decide (key entry = wanted))

theorem latest_append_singleton (history : List Entry) (entry : Entry) (wanted : Key) :
    latest key (history ++ [entry]) wanted =
      if key entry = wanted then some entry else latest key history wanted := by
  unfold latest
  rw [List.reverse_append, List.reverse_singleton, List.singleton_append, List.find?_cons]
  by_cases same : key entry = wanted
  · rw [if_pos same, decide_eq_true same]
  · rw [if_neg same, decide_eq_false same]

theorem key_of_latest {history : List Entry} {wanted : Key} {entry : Entry}
    (found : latest key history wanted = some entry) : key entry = wanted :=
  of_decide_eq_true (List.find?_some (p := fun entry => decide (key entry = wanted)) found)

/-- A key that was written has a most recent entry. -/
theorem exists_latest {history : List Entry} {entry : Entry} (member : entry ∈ history) :
    exists found, latest key history (key entry) = some found := by
  apply Option.isSome_iff_exists.mp
  apply List.find?_isSome.mpr
  exact ⟨entry, List.mem_reverse.mpr member, decide_eq_true rfl⟩

/-- Writes under other keys do not change the most recent entry. -/
theorem latest_append_of_ne {history later : List Entry} {wanted : Key}
    (other : forall entry, entry ∈ later -> key entry ≠ wanted) :
    latest key (history ++ later) wanted = latest key history wanted := by
  unfold latest
  rw [List.reverse_append, List.find?_append]
  have absent : later.reverse.find? (fun entry => decide (key entry = wanted)) = none := by
    apply List.find?_eq_none.mpr
    intro entry member same
    exact other entry (List.mem_reverse.mp member) (of_decide_eq_true same)
  rw [absent, Option.none_or]

variable {seen : Entry -> Instant} {ttl : Duration}

/-- The entry is younger than the time to live. -/
def fresh (seen : Entry -> Instant) (ttl : Duration) (now : Instant) (entry : Entry) : Bool :=
  decide (now - seen entry < ttl)

theorem fresh_of_le {earlier later : Instant} {entry : Entry} (forward : earlier <= later)
    (young : fresh seen ttl later entry = true) : fresh seen ttl earlier entry = true := by
  rw [fresh, decide_eq_true_eq] at young ⊢
  exact Nat.lt_of_le_of_lt (Nat.sub_le_sub_right forward _) young

/-- The table agrees with the history of writes, as far as fresh entries go. -/
structure Reflects (seen : Entry -> Instant) (ttl : Duration) (history : List Entry)
    (clock : Instant) (table : Table key) : Prop where
  current : forall entry, entry ∈ table.entries ->
    latest key history (key entry) = some entry
  complete : forall wanted entry, latest key history wanted = some entry ->
    fresh seen ttl clock entry = true -> entry ∈ table.entries

theorem reflects_empty (clock : Instant) :
    Reflects seen ttl [] clock (Table.empty : Table key) where
  current := by
    intro entry member
    exact absurd member List.not_mem_nil
  complete := by
    intro wanted entry found
    cases found

namespace Reflects

variable {history : List Entry} {clock now : Instant} {table : Table key}

/-- What is left after pruning at a later time. -/
theorem mem_prune (sound : Reflects seen ttl history clock table) (forward : clock <= now)
    {entry : Entry} :
    entry ∈ (table.retain (fresh seen ttl now)).entries <->
      latest key history (key entry) = some entry ∧ fresh seen ttl now entry = true := by
  rw [Table.mem_retain]
  constructor
  · intro kept
    exact ⟨sound.current entry kept.1, kept.2⟩
  · intro live
    exact ⟨sound.complete (key entry) entry live.1 (fresh_of_le forward live.2), live.2⟩

theorem elapse (sound : Reflects seen ttl history clock table) (forward : clock <= now) :
    Reflects seen ttl history now table where
  current := sound.current
  complete := by
    intro wanted entry found young
    exact sound.complete wanted entry found (fresh_of_le forward young)

theorem prune (sound : Reflects seen ttl history clock table) (forward : clock <= now) :
    Reflects seen ttl history now (table.retain (fresh seen ttl now)) where
  current := by
    intro entry member
    exact sound.current entry (Table.mem_retain.mp member).1
  complete := by
    intro wanted entry found young
    have named := key_of_latest found
    subst named
    exact (sound.mem_prune forward).mpr ⟨found, young⟩

theorem insert (sound : Reflects seen ttl history clock table) (entry : Entry) :
    Reflects seen ttl (history ++ [entry]) clock (table.insert entry) where
  current := by
    intro other member
    rw [latest_append_singleton]
    rcases Table.mem_insert.mp member with ⟨old, apart⟩ | new
    · rw [if_neg (Ne.symm apart)]
      exact sound.current other old
    · subst new
      rw [if_pos rfl]
  complete := by
    intro wanted other found young
    rw [latest_append_singleton] at found
    apply Table.mem_insert.mpr
    by_cases same : key entry = wanted
    · rw [if_pos same, Option.some.injEq] at found
      exact .inr found.symm
    · rw [if_neg same] at found
      refine .inl ⟨sound.complete wanted other found young, ?_⟩
      rw [key_of_latest found]
      exact Ne.symm same

end Reflects

end Foundations
end QuicMix
