import Mathlib.Data.List.Induction
import Mathlib.Data.List.Nodup
import TaskEndpoints.Assoc

/-!
# Associations that are built by insertion

The keys of an association that is built from pairs are the keys of the pairs, each in the place where it
came first. A key that is not written keeps its value, and everything found was written at some time.
-/

namespace TaskEndpoints.Assoc

variable {κ α : Type} [DecidableEq κ]

theorem insertAll_cons (entries : Assoc κ α) (p : κ × α) (rest : List (κ × α)) :
    entries.insertAll (p :: rest) = (entries.insert p.1 p.2).insertAll rest := rfl

/-- Insertion of pairs appends the keys that are new. -/
theorem keys_insertAll (entries : Assoc κ α) (pairs : List (κ × α)) :
    (entries.insertAll pairs).keys =
      entries.keys ++ ((pairs.map (·.1)).filter (· ∉ entries.keys)).eraseDups := by
  induction pairs generalizing entries with
  | nil => exact (List.append_nil _).symm
  | cons p rest ih =>
      rw [insertAll_cons, ih, keys_insert, List.map_cons]
      by_cases h : p.1 ∈ entries.keys
      · rw [if_pos h, List.filter_cons_of_neg (by simpa using h)]
      · rw [if_neg h, List.filter_cons_of_pos (by simpa using h), List.eraseDups_cons,
          List.append_assoc, List.singleton_append, List.filter_filter]
        congr 4
        funext k
        by_cases hk : k = p.1
        · simp [hk]
        · simp [hk]

theorem keys_ofPairs (pairs : List (κ × α)) :
    (ofPairs pairs).keys = (pairs.map (·.1)).eraseDups := by
  rw [ofPairs, keys_insertAll, List.filter_eq_self.mpr]
  · rfl
  · intro k _
    exact decide_eq_true List.not_mem_nil

/-- First occurrences are distinct. -/
theorem nodup_eraseDups (keys : List κ) : keys.eraseDups.Nodup := by
  have hnil : Assoc.keys ([] : Assoc κ Unit) = [] := rfl
  have hkeys := keys_ofPairs (keys.map fun k => (k, ()))
  rw [List.map_map, show (fun p : κ × Unit => p.1) ∘ (fun k => (k, ())) = id from rfl, List.map_id] at hkeys
  rw [← hkeys]
  exact nodup_keys_insertAll (hnil ▸ List.nodup_nil) _

theorem nodup_keys_ofPairs (pairs : List (κ × α)) : (ofPairs pairs).keys.Nodup := by
  rw [keys_ofPairs]
  exact nodup_eraseDups _

omit [DecidableEq κ] in
/-- Associations with the same keys, in the same order, and with one value for each key are the same. -/
theorem eq_of_keys_eq {first second : Assoc κ α} (hk : first.keys = second.keys)
    (hv : ∀ p ∈ first, ∀ q ∈ second, p.1 = q.1 → p.2 = q.2) : first = second := by
  induction first generalizing second with
  | nil => exact (List.map_eq_nil_iff.mp hk.symm).symm
  | cons p rest ih =>
      cases second with
      | nil => cases hk
      | cons q others =>
          obtain ⟨hhead, htail⟩ := List.cons.inj hk
          have hvalue := hv p List.mem_cons_self q List.mem_cons_self hhead
          rw [show p = q from Prod.ext hhead hvalue, ih htail]
          exact fun p' hp q' hq => hv p' (List.mem_cons_of_mem _ hp) q' (List.mem_cons_of_mem _ hq)

theorem mem_of_mem_insert {entries : Assoc κ α} {key : κ} {value : α} {e : κ × α}
    (h : e ∈ entries.insert key value) : e ∈ entries ∨ e = (key, value) := by
  induction entries with
  | nil => exact Or.inr (List.mem_singleton.mp h)
  | cons entry rest ih =>
      rw [insert] at h
      split at h
      · rename_i hk
        rcases List.mem_cons.mp h with h | h
        · exact Or.inr (h.trans (congrArg (·, value) hk))
        · exact Or.inl (List.mem_cons_of_mem _ h)
      · rcases List.mem_cons.mp h with h | h
        · exact Or.inl (h ▸ List.mem_cons_self)
        · exact (ih h).imp (List.mem_cons_of_mem _) id

/-- Every entry was there before or is one of the pairs. -/
theorem mem_of_mem_insertAll {entries : Assoc κ α} {pairs : List (κ × α)} {e : κ × α}
    (h : e ∈ entries.insertAll pairs) : e ∈ entries ∨ e ∈ pairs := by
  induction pairs generalizing entries with
  | nil => exact Or.inl h
  | cons p rest ih =>
      rcases ih h with h | h
      · rcases mem_of_mem_insert h with h | rfl
        · exact Or.inl h
        · exact Or.inr List.mem_cons_self
      · exact Or.inr (List.mem_cons_of_mem _ h)

theorem get?_insertAll_of_not_mem {pairs : List (κ × α)} {key : κ} (h : key ∉ pairs.map (·.1))
    (entries : Assoc κ α) : (entries.insertAll pairs).get? key = entries.get? key := by
  induction pairs generalizing entries with
  | nil => rfl
  | cons p rest ih =>
      rw [List.map_cons, List.mem_cons, not_or] at h
      rw [insertAll_cons, ih h.2, get?_insert, if_neg fun he => h.1 he.symm]

/-- Where the pairs of a key all have one value, this is the value of the key. -/
theorem get?_insertAll_of_forall {pairs : List (κ × α)} {key : κ} {value : α}
    (h : ∀ p ∈ pairs, p.1 = key → p.2 = value) {entries : Assoc κ α}
    (hm : key ∈ pairs.map (·.1) ∨ entries.get? key = some value) :
    (entries.insertAll pairs).get? key = some value := by
  induction pairs generalizing entries with
  | nil => exact hm.resolve_left List.not_mem_nil
  | cons p rest ih =>
      refine ih (fun p' hp' => h p' (List.mem_cons_of_mem p hp')) ?_
      rw [get?_insert]
      by_cases hk : p.1 = key
      · rw [if_pos hk, h p List.mem_cons_self hk]
        exact Or.inr rfl
      · rw [if_neg hk]
        refine hm.imp (fun hm => ?_) id
        exact (List.mem_cons.mp hm).resolve_left fun he => hk he.symm

theorem mem_of_get?_eq_some {entries : Assoc κ α} {key : κ} {value : α}
    (h : entries.get? key = some value) : (key, value) ∈ entries := by
  induction entries with
  | nil => cases h
  | cons entry rest ih =>
      rw [get?] at h
      split at h
      · rename_i hk
        obtain rfl := Option.some.inj h
        exact hk ▸ List.mem_cons_self
      · exact List.mem_cons_of_mem _ (ih h)

/-- Entries whose keys and values are put differently, the keys each in its own way. -/
theorem get?_map {κ' α' : Type} [DecidableEq κ'] {f : κ → κ'} (hf : Function.Injective f) (g : α → α')
    (entries : Assoc κ α) (key : κ) :
    get? (entries.map fun e => (f e.1, g e.2)) (f key) = (entries.get? key).map g := by
  induction entries with
  | nil => rfl
  | cons entry rest ih =>
      rw [List.map_cons, get?, get?]
      by_cases hk : entry.1 = key
      · rw [if_pos hk, if_pos (congrArg f hk)]
        rfl
      · rw [if_neg hk, if_neg fun he => hk (hf he)]
        exact ih

/-- Where one key is given to one element only, it has the value of that element. -/
theorem get?_map_of_unique {ι : Type} {items : List ι} (key : ι → κ) (value : ι → α) {item : ι}
    (hm : item ∈ items) (hu : ∀ other ∈ items, key other = key item → other = item) :
    get? (items.map fun i => (key i, value i)) (key item) = some (value item) := by
  induction items with
  | nil => cases hm
  | cons first rest ih =>
      rw [List.map_cons, get?]
      by_cases hk : key first = key item
      · rw [if_pos hk, hu first List.mem_cons_self hk]
      · rw [if_neg hk]
        have hne : item ≠ first := fun he => hk (he ▸ rfl)
        exact ih ((List.mem_cons.mp hm).resolve_left hne)
          fun other ho => hu other (List.mem_cons_of_mem first ho)

/-! ### First places and last values -/

theorem get?_of_mem {entries : Assoc κ α} (h : entries.keys.Nodup) {e : κ × α} (hm : e ∈ entries) :
    entries.get? e.1 = some e.2 := by
  induction entries with
  | nil => cases hm
  | cons entry rest ih =>
      obtain ⟨hnot, hrest⟩ := List.nodup_cons.mp h
      rw [get?]
      rcases List.mem_cons.mp hm with rfl | hm
      · rw [if_pos rfl]
      · have hkey : e.1 ∈ rest.map (·.1) := List.mem_map_of_mem hm
        have hne : e.1 ≠ entry.1 := ne_of_mem_of_not_mem hkey hnot
        rw [if_neg hne.symm, ih hrest hm]

/-- With distinct keys, a key has the value that stands with it. -/
theorem get?_eq_some_iff {entries : Assoc κ α} (h : entries.keys.Nodup) {key : κ} {value : α} :
    entries.get? key = some value ↔ (key, value) ∈ entries :=
  ⟨mem_of_get?_eq_some, get?_of_mem (e := (key, value)) h⟩

omit [DecidableEq κ] in
theorem keys_perm {first second : Assoc κ α} (h : first.Perm second) :
    first.keys.Perm second.keys :=
  List.Perm.map Prod.fst h

/-- With distinct keys, the order of the entries is all that look-ups do not tell. -/
theorem perm_iff_get? {first second : Assoc κ α} (h : first.keys.Nodup) (h' : second.keys.Nodup) :
    first.Perm second ↔ ∀ key, first.get? key = second.get? key := by
  constructor
  · intro hp key
    apply Option.ext
    intro value
    rw [get?_eq_some_iff h, get?_eq_some_iff h', hp.mem_iff]
  · intro hget
    have hfirst : first.Nodup := List.Nodup.of_map Prod.fst h
    have hsecond : second.Nodup := List.Nodup.of_map Prod.fst h'
    apply (List.perm_ext_iff_of_nodup hfirst hsecond).mpr
    intro e
    rw [← get?_eq_some_iff h, ← get?_eq_some_iff h', hget]

/-- A key has one value, whatever the order of the entries is. -/
theorem get?_perm {first second : Assoc κ α} (h : first.keys.Nodup) (hp : first.Perm second)
    (key : κ) : first.get? key = second.get? key :=
  (perm_iff_get? h ((keys_perm hp).nodup_iff.mp h)).mp hp key

/-- Each key of the pairs has one entry, where it came first, with the value that came last. -/
structure Collects (pairs entries : Assoc κ α) : Prop where
  keys : entries.keys = (pairs.map (·.1)).eraseDups
  last : ∀ e ∈ entries, ∃ before after, pairs = before ++ e :: after ∧ e.1 ∉ after.map (·.1)

/-- Insertion collects the pairs. -/
theorem Collects.ofPairs_eq {pairs entries : Assoc κ α} (h : Collects pairs entries) :
    ofPairs pairs = entries := by
  refine eq_of_keys_eq ((keys_ofPairs pairs).trans h.keys.symm) fun p hp e he hk => ?_
  obtain ⟨before, after, hpairs, hnot⟩ := h.last e he
  have hentry : (ofPairs pairs).get? e.1 = some e.2 := by
    rw [ofPairs, insertAll, hpairs, List.foldl_append]
    exact (get?_insertAll_of_not_mem hnot _).trans ((get?_insert _ _ _ _).trans (if_pos rfl))
  exact Option.some.inj ((get?_of_mem (nodup_keys_ofPairs pairs) hp).symm.trans (hk ▸ hentry))

theorem ofPairs_append_singleton (pairs : List (κ × α)) (p : κ × α) :
    ofPairs (pairs ++ [p]) = (ofPairs pairs).insert p.1 p.2 := by
  rw [ofPairs, insertAll, List.foldl_append]
  rfl

/-- What insertion makes of pairs is what collects them. -/
theorem collects_ofPairs (pairs : List (κ × α)) : Collects pairs (ofPairs pairs) where
  keys := keys_ofPairs pairs
  last := by
    -- by what the last pair does to the entries before it
    induction pairs using List.reverseRecOn with
    | nil => exact fun e he => absurd he List.not_mem_nil
    | append_singleton init p ih =>
        intro e he
        have hnodup := nodup_keys_ofPairs (init ++ [p])
        have hget := get?_of_mem hnodup he
        rw [ofPairs_append_singleton] at he hget
        rw [get?_insert] at hget
        by_cases hk : p.1 = e.1
        · rw [if_pos hk] at hget
          have hp : p = e := Prod.ext hk (Option.some.inj hget)
          exact ⟨init, [], hp ▸ rfl, List.not_mem_nil⟩
        · rw [if_neg hk] at hget
          obtain ⟨before, after, hinit, hnot⟩ := ih e (mem_of_get?_eq_some hget)
          refine ⟨before, after ++ [p], ?_, ?_⟩
          · rw [hinit, List.append_assoc, List.cons_append]
          · rw [List.map_append, List.mem_append, not_or]
            exact ⟨hnot, fun hm => hk (List.mem_singleton.mp hm).symm⟩

theorem eraseDups_of_nodup {keys : List κ} (h : keys.Nodup) : keys.eraseDups = keys := by
  induction keys with
  | nil => rfl
  | cons key rest ih =>
      obtain ⟨hnot, hrest⟩ := List.nodup_cons.mp h
      have hkeep : rest.filter (fun other => !other == key) = rest :=
        List.filter_eq_self.mpr fun other ho => by
          simpa using fun he : other = key => hnot (he ▸ ho)
      rw [List.eraseDups_cons, hkeep, ih hrest]

/-- Pairs with distinct keys are collected as they are. -/
theorem collects_self {entries : Assoc κ α} (h : entries.keys.Nodup) : Collects entries entries where
  keys := (eraseDups_of_nodup h).symm
  last e he := by
    obtain ⟨before, after, rfl⟩ := List.append_of_mem he
    refine ⟨before, after, rfl, ?_⟩
    rw [keys, List.map_append, List.map_cons] at h
    exact (List.nodup_cons.mp (List.nodup_append.mp h).2.1).1

/-! ### One association over another -/

theorem get?_eq_none_iff {entries : Assoc κ α} {key : κ} :
    entries.get? key = none ↔ key ∉ entries.keys := by
  induction entries with
  | nil => exact iff_of_true rfl List.not_mem_nil
  | cons entry rest ih =>
      rw [get?, keys, List.map_cons, List.mem_cons, not_or]
      by_cases hk : entry.1 = key
      · rw [if_pos hk]
        exact iff_of_false (fun h => by cases h) fun h => h.1 hk.symm
      · rw [if_neg hk, ih]
        exact (and_iff_right (Ne.symm hk)).symm

/-- Pairs are written over entries: a key of the pairs has its value there and every other key the one that it
has. The keys stay where they are, and those that are new follow in the order of the pairs. -/
structure Overlays (entries pairs merged : Assoc κ α) : Prop where
  value : ∀ key, merged.get? key = (pairs.get? key).or (entries.get? key)
  keys : merged.keys = entries.keys ++ pairs.keys.filter (· ∉ entries.keys)

/-- Insertion writes pairs with distinct keys over the entries. -/
theorem overlays_insertAll (entries : Assoc κ α) {pairs : Assoc κ α} (h : pairs.keys.Nodup) :
    Overlays entries pairs (entries.insertAll pairs) where
  value key := by
    cases hp : pairs.get? key with
    | none => exact get?_insertAll_of_not_mem (get?_eq_none_iff.mp hp) entries
    | some value =>
        have hm : (key, value) ∈ pairs := mem_of_get?_eq_some hp
        refine get?_insertAll_of_forall (fun p hmp hk => ?_) (Or.inl (List.mem_map_of_mem hm))
        have hget : pairs.get? p.1 = some p.2 := get?_of_mem h hmp
        rw [hk, hp] at hget
        exact (Option.some.inj hget).symm
  keys := by
    rw [keys_insertAll, eraseDups_of_nodup]
    · rfl
    · exact h.filter _

/-! ### Related entries -/

section Related

variable {R : κ × α → κ × α → Prop} {first second : Assoc κ α}

theorem insert_related (hkey : ∀ {e e'}, R e e' → e.1 = e'.1) (hrefl : ∀ e, R e e)
    (h : List.Forall₂ R first second) (key : κ) (value : α) :
    List.Forall₂ R (first.insert key value) (second.insert key value) := by
  induction h with
  | nil => exact .cons (hrefl _) .nil
  | cons he hrest ih =>
      rw [insert, insert, ← hkey he]
      split
      · exact .cons (hrefl _) hrest
      · exact .cons he ih

/-- What is written into two lists of related entries replaces the same entries in both. -/
theorem insertAll_related (hkey : ∀ {e e'}, R e e' → e.1 = e'.1) (hrefl : ∀ e, R e e)
    (h : List.Forall₂ R first second) (pairs : List (κ × α)) :
    List.Forall₂ R (first.insertAll pairs) (second.insertAll pairs) := by
  induction pairs generalizing first second with
  | nil => exact h
  | cons p rest ih => exact ih (insert_related hkey hrefl h p.1 p.2)

end Related

end TaskEndpoints.Assoc
