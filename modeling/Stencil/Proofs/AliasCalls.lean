import Mathlib
import Stencil.Alias

/-! The alias table as a finite map from lowercased keys to targets, after any run of additions and
removals. -/

namespace Stencil

/-- One call that changes an alias table. -/
inductive AliasCall where
  | add (key : String) (target : AliasTarget)
  | remove (key : String)

namespace AliasCall

def key : AliasCall → String
  | .add key _ => key
  | .remove key => key

def apply (t : AliasTable) : AliasCall → AliasTable
  | .add key target => t.add key target
  | .remove key => t.remove key

@[simp] theorem key_add (key : String) (target : AliasTarget) : (AliasCall.add key target).key = key :=
  rfl

@[simp] theorem key_remove (key : String) : (AliasCall.remove key).key = key := rfl

end AliasCall

namespace AliasTable

/-- The table a run of calls leaves, starting from the empty one. -/
def ofCalls (calls : List AliasCall) : AliasTable := calls.foldl AliasCall.apply empty

/-- The calls leave `target` under the lowercased key `k`: some call adds it under a key that
lowercases to `k`, and no later call names a key that lowercases to `k`. -/
def Live (calls : List AliasCall) (k : String) (target : AliasTarget) : Prop :=
  ∃ before key after, calls = before ++ .add key target :: after ∧ Text.toLower key = k ∧
    ∀ c ∈ after, Text.toLower c.key ≠ k

def KeysNodup (t : AliasTable) : Prop := (t.entries.map (·.1)).Nodup

private theorem ofCalls_append_singleton (calls : List AliasCall) (call : AliasCall) :
    ofCalls (calls ++ [call]) = AliasCall.apply (ofCalls calls) call := by
  simp [ofCalls]

/-! ### One call -/

private theorem mem_entries_add {t : AliasTable} {key k : String} {target found : AliasTarget} :
    (k, found) ∈ (t.add key target).entries ↔
      (k = Text.toLower key ∧ found = target) ∨ ((k, found) ∈ t.entries ∧ k ≠ Text.toLower key) := by
  simp [add]

private theorem mem_entries_remove {t : AliasTable} {key k : String} {found : AliasTarget} :
    (k, found) ∈ (t.remove key).entries ↔ (k, found) ∈ t.entries ∧ k ≠ Text.toLower key := by
  simp [remove]

private theorem KeysNodup.remove {t : AliasTable} (nodup : t.KeysNodup) (key : String) :
    (t.remove key).KeysNodup :=
  nodup.sublist ((List.filter_sublist).map _)

private theorem KeysNodup.add {t : AliasTable} (nodup : t.KeysNodup) (key : String)
    (target : AliasTarget) :
    (t.add key target).KeysNodup := by
  have kept : (t.remove key).KeysNodup := nodup.remove key
  refine List.nodup_cons.mpr ⟨?_, kept⟩
  intro member
  obtain ⟨entry, inside, same⟩ := List.mem_map.mp member
  have other := (List.mem_filter.mp inside).2
  simp [same] at other

private theorem KeysNodup.apply {t : AliasTable} (nodup : t.KeysNodup) :
    ∀ call, (AliasCall.apply t call).KeysNodup
  | AliasCall.add key target => nodup.add key target
  | AliasCall.remove key => nodup.remove key

private theorem find?_eq_some_iff_mem {t : AliasTable} (nodup : t.KeysNodup) {k : String}
    {target : AliasTarget} :
    (t.entries.find? (·.1 == k)).map (·.2) = some target ↔ (k, target) ∈ t.entries := by
  constructor
  · intro found
    obtain ⟨entry, first, rfl⟩ := Option.map_eq_some_iff.mp found
    have key_matches : entry.1 = k := by simpa using List.find?_some first
    exact key_matches ▸ List.mem_of_find?_eq_some first
  · intro member
    have searched : (t.entries.find? (·.1 == k)).isSome :=
      List.find?_isSome.mpr ⟨(k, target), member, by simp⟩
    obtain ⟨entry, first⟩ := Option.isSome_iff_exists.mp searched
    have key_matches : entry.1 = k := by simpa using List.find?_some first
    have same : entry = (k, target) :=
      List.inj_on_of_nodup_map nodup (List.mem_of_find?_eq_some first) member key_matches
    rw [first, same]
    rfl

/-! ### Runs of calls -/

private theorem not_live_nil (k : String) (target : AliasTarget) : ¬Live [] k target := by
  rintro ⟨before, key, after, spelled, -⟩
  simp at spelled

private theorem live_append_singleton {calls : List AliasCall} {call : AliasCall} {k : String}
    {target : AliasTarget} :
    Live (calls ++ [call]) k target ↔
      (∃ key, call = .add key target ∧ Text.toLower key = k) ∨
        (Live calls k target ∧ Text.toLower call.key ≠ k) := by
  constructor
  · rintro ⟨before, key, after, spelled, lowered, later⟩
    rcases List.eq_nil_or_concat' after with rfl | ⟨middle, last, rfl⟩
    · obtain ⟨-, last⟩ := List.append_inj' spelled rfl
      exact .inl ⟨key, List.singleton_inj.mp last, lowered⟩
    · rw [← List.cons_append, ← List.append_assoc] at spelled
      obtain ⟨rfl, final⟩ := List.append_inj' spelled rfl
      obtain rfl := List.singleton_inj.mp final
      refine .inr ⟨⟨before, key, middle, rfl, lowered, ?_⟩, later call (by simp)⟩
      exact fun c inside => later c (by simp [inside])
  · rintro (⟨key, rfl, lowered⟩ | ⟨⟨before, key, after, rfl, lowered, later⟩, other⟩)
    · exact ⟨calls, key, [], rfl, lowered, by simp⟩
    · refine ⟨before, key, after ++ [call], by simp, lowered, ?_⟩
      intro c inside
      rcases List.mem_append.mp inside with earlier | last
      · exact later c earlier
      · exact List.mem_singleton.mp last ▸ other

private theorem live_append {calls rest : List AliasCall} {k : String} {target : AliasTarget} :
    Live (calls ++ rest) k target ↔
      Live rest k target ∨ (Live calls k target ∧ ∀ c ∈ rest, Text.toLower c.key ≠ k) := by
  induction rest using List.reverseRecOn with
  | nil => simp [not_live_nil]
  | append_singleton rest call ih =>
    rw [← List.append_assoc, live_append_singleton, live_append_singleton, ih]
    simp only [List.mem_append, List.mem_singleton]
    constructor
    · rintro (added | ⟨live | ⟨live, unnamed⟩, other⟩)
      · exact .inl (.inl added)
      · exact .inl (.inr ⟨live, other⟩)
      · exact .inr ⟨live, fun c inside => inside.elim (unnamed c) (fun same => same ▸ other)⟩
    · rintro ((added | ⟨live, other⟩) | ⟨live, unnamed⟩)
      · exact .inl added
      · exact .inr ⟨.inl live, other⟩
      · exact .inr ⟨.inr ⟨live, fun c inside => unnamed c (.inl inside)⟩, unnamed call (.inr rfl)⟩

private theorem live_pair_swap {calls : List AliasCall} {first second : AliasCall}
    (different : Text.toLower first.key ≠ Text.toLower second.key) {k : String}
    {target : AliasTarget} :
    Live (calls ++ [first, second]) k target ↔ Live (calls ++ [second, first]) k target := by
  have split : ∀ a b : AliasCall, calls ++ [a, b] = calls ++ [a] ++ [b] := by simp
  rw [split, split, live_append_singleton, live_append_singleton, live_append_singleton,
    live_append_singleton]
  have named : ∀ {a b : AliasCall}, Text.toLower a.key ≠ Text.toLower b.key →
      (∃ key, a = .add key target ∧ Text.toLower key = k) → Text.toLower b.key ≠ k := by
    rintro a b apart ⟨key, rfl, lowered⟩
    simpa [← lowered] using Ne.symm apart
  constructor
  · rintro (added | ⟨added | ⟨live, first_other⟩, second_other⟩)
    · exact .inr ⟨.inl added, named (Ne.symm different) added⟩
    · exact .inl added
    · exact .inr ⟨.inr ⟨live, second_other⟩, first_other⟩
  · rintro (added | ⟨added | ⟨live, second_other⟩, first_other⟩)
    · exact .inr ⟨.inl added, named different added⟩
    · exact .inl added
    · exact .inr ⟨.inr ⟨live, first_other⟩, second_other⟩

private theorem live_swap {calls rest : List AliasCall} {first second : AliasCall}
    (different : Text.toLower first.key ≠ Text.toLower second.key) {k : String}
    {target : AliasTarget} :
    Live (calls ++ first :: second :: rest) k target ↔
      Live (calls ++ second :: first :: rest) k target := by
  have regroup : ∀ a b : AliasCall, calls ++ a :: b :: rest = calls ++ [a, b] ++ rest := by simp
  rw [regroup, regroup, @live_append (calls ++ [first, second]),
    @live_append (calls ++ [second, first]), live_pair_swap different]

private theorem ofCalls_entries (calls : List AliasCall) :
    (ofCalls calls).KeysNodup ∧
      ∀ k target, (k, target) ∈ (ofCalls calls).entries ↔ Live calls k target := by
  induction calls using List.reverseRecOn with
  | nil => exact ⟨List.nodup_nil, fun k target => by simp [ofCalls, empty, not_live_nil]⟩
  | append_singleton calls call ih =>
    obtain ⟨nodup, stored⟩ := ih
    rw [ofCalls_append_singleton]
    refine ⟨nodup.apply call, fun k target => ?_⟩
    rw [live_append_singleton]
    cases call with
    | add key added =>
      rw [AliasCall.apply, mem_entries_add, stored]
      constructor
      · rintro (⟨rfl, rfl⟩ | ⟨live, other⟩)
        · exact .inl ⟨key, rfl, rfl⟩
        · exact .inr ⟨live, Ne.symm other⟩
      · rintro (⟨key', same, rfl⟩ | ⟨live, other⟩)
        · obtain ⟨rfl, rfl⟩ := AliasCall.add.inj same
          exact .inl ⟨rfl, rfl⟩
        · exact .inr ⟨live, Ne.symm other⟩
    | remove key =>
      rw [AliasCall.apply, mem_entries_remove, stored]
      simp [eq_comm]

/-- A key finds the target that the calls leave live under its lowercase form. -/
theorem get?_ofCalls {calls : List AliasCall} {key : String} {target : AliasTarget} :
    (ofCalls calls).get? key = some target ↔ Live calls (Text.toLower key) target := by
  obtain ⟨nodup, stored⟩ := ofCalls_entries calls
  rw [get?_eq_find?, find?_eq_some_iff_mem nodup, stored]

theorem size_ofCalls (calls : List AliasCall) :
    (ofCalls calls).size = Set.ncard {k | ∃ target, Live calls k target} := by
  obtain ⟨nodup, stored⟩ := ofCalls_entries calls
  have keys : {k | ∃ target, Live calls k target} =
      ↑((ofCalls calls).entries.map (·.1)).toFinset := by
    ext k
    simp [← stored]
  rw [keys, Set.ncard_coe_finset, List.toFinset_card_of_nodup nodup, List.length_map, size]

private theorem isEmpty_iff_size (t : AliasTable) : t.isEmpty = true ↔ t.size = 0 := by
  simp [isEmpty, size]

/-! ### Consequences -/

/-- Calls on keys that lowercase differently commute: every key finds the same target and the
size is the same. -/
theorem ofCalls_swap {calls rest : List AliasCall} {first second : AliasCall}
    (different : Text.toLower first.key ≠ Text.toLower second.key) :
    (∀ key, (ofCalls (calls ++ first :: second :: rest)).get? key =
      (ofCalls (calls ++ second :: first :: rest)).get? key) ∧
    (ofCalls (calls ++ first :: second :: rest)).size =
      (ofCalls (calls ++ second :: first :: rest)).size := by
  refine ⟨fun key => Option.ext fun target => ?_, ?_⟩
  · rw [get?_ofCalls, get?_ofCalls, live_swap different]
  · simp only [size_ofCalls, live_swap different]

theorem ofCalls_add_again {calls : List AliasCall} {key again : String} {target : AliasTarget}
    (alike : Text.toLower again = Text.toLower key) (present : (ofCalls calls).get? key ≠ none) :
    (ofCalls (calls ++ [.add again target])).get? key = some target ∧
      (ofCalls (calls ++ [.add again target])).size = (ofCalls calls).size := by
  obtain ⟨old, found⟩ := Option.ne_none_iff_exists'.mp present
  have live := get?_ofCalls.mp found
  refine ⟨get?_ofCalls.mpr (live_append_singleton.mpr (.inl ⟨again, rfl, alike⟩)), ?_⟩
  have keys : {k | ∃ t, Live (calls ++ [.add again target]) k t} = {k | ∃ t, Live calls k t} := by
    ext k
    simp only [Set.mem_ofPred_eq, live_append_singleton, AliasCall.add.injEq, AliasCall.key_add]
    constructor
    · rintro ⟨t, ⟨key', ⟨rfl, rfl⟩, rfl⟩ | ⟨earlier, -⟩⟩
      · exact ⟨old, alike ▸ live⟩
      · exact ⟨t, earlier⟩
    · rintro ⟨t, earlier⟩
      by_cases named : Text.toLower again = k
      · exact ⟨target, .inl ⟨again, ⟨rfl, rfl⟩, named⟩⟩
      · exact ⟨t, .inr ⟨earlier, named⟩⟩
  rw [size_ofCalls, size_ofCalls, keys]

/-- After any run of additions and removals from the empty table, the table is the finite map
that the run leaves on lowercased keys: a key finds the target of the last addition under a key
lowercasing like it that no later call on such a key undid, and nothing if there is none; the
size counts those keys and emptiness is size zero; an empty table's early answer is the search's
answer; calls on keys that lowercase differently commute; and adding a key again replaces its
target without changing the size. -/
theorem aliasTable_is_lowercase_map (calls : List AliasCall) :
    (∀ key target, (ofCalls calls).get? key = some target ↔
      Live calls (Text.toLower key) target) ∧
    (ofCalls calls).size = Set.ncard {k | ∃ target, Live calls k target} ∧
    ((ofCalls calls).isEmpty = true ↔ (ofCalls calls).size = 0) ∧
    (∀ key, (ofCalls calls).get? key =
      ((ofCalls calls).entries.find? (·.1 == Text.toLower key)).map (·.2)) ∧
    (∀ first second rest, Text.toLower first.key ≠ Text.toLower second.key →
      (∀ key, (ofCalls (calls ++ first :: second :: rest)).get? key =
        (ofCalls (calls ++ second :: first :: rest)).get? key) ∧
      (ofCalls (calls ++ first :: second :: rest)).size =
        (ofCalls (calls ++ second :: first :: rest)).size) ∧
    (∀ key again target, Text.toLower again = Text.toLower key → (ofCalls calls).get? key ≠ none →
      (ofCalls (calls ++ [.add again target])).get? key = some target ∧
        (ofCalls (calls ++ [.add again target])).size = (ofCalls calls).size) :=
  ⟨fun _ _ => get?_ofCalls, size_ofCalls calls, isEmpty_iff_size _, get?_eq_find? _,
    fun _ _ _ different => ofCalls_swap different,
    fun _ _ _ alike present => ofCalls_add_again alike present⟩

end AliasTable

end Stencil
