/-!
# Associations in order of first insertion

Tags, labels, settings and objects are lists of pairs in which every key has one place. Writing to a
key that is present keeps its place; writing to a new key appends it.

## Implementation notes

The type is a plain list, so that an association can be read and written like any other list. The
operations keep keys distinct; that lists built by them have distinct keys is a statement about those
operations.
-/

namespace TaskEndpoints

/-- An association list that keeps the order in which its keys first appeared. -/
abbrev Assoc (κ α : Type) := List (κ × α)

namespace Assoc

variable {κ α : Type} [DecidableEq κ]

/-- Give a key a value: in its old place if the key is present, else at the end. -/
def insert : Assoc κ α → κ → α → Assoc κ α
  | [], key, value => [(key, value)]
  | entry :: rest, key, value =>
    if entry.1 = key then (entry.1, value) :: rest else entry :: insert rest key value

/-- The value of a key. -/
def get? : Assoc κ α → κ → Option α
  | [], _ => none
  | entry :: rest, key => if entry.1 = key then some entry.2 else get? rest key

/-- The keys in order. -/
def keys (entries : Assoc κ α) : List κ := entries.map (·.1)

/-- Insert pairs one after another. -/
def insertAll (entries : Assoc κ α) (pairs : List (κ × α)) : Assoc κ α :=
  pairs.foldl (fun done p => done.insert p.1 p.2) entries

/-- The association of a list of pairs. -/
def ofPairs (pairs : List (κ × α)) : Assoc κ α := insertAll [] pairs

@[simp] theorem get?_nil (key : κ) : get? ([] : Assoc κ α) key = none := rfl

/-- Reading after writing. -/
theorem get?_insert (entries : Assoc κ α) (key other : κ) (value : α) :
    (entries.insert key value).get? other = if key = other then some value else entries.get? other := by
  induction entries with
  | nil => simp [insert, get?]
  | cons entry rest ih =>
    unfold insert
    by_cases h : entry.1 = key
    · subst h
      by_cases h' : entry.1 = other <;> simp [get?, h']
    · by_cases h' : entry.1 = other
      · subst h'
        have : ¬ key = entry.1 := fun e => h e.symm
        simp [get?, h, this]
      · simpa [get?, h, h'] using ih

/-- Inserting changes no key of a list that holds it, and appends one that it lacks. -/
theorem keys_insert (entries : Assoc κ α) (key : κ) (value : α) :
    (entries.insert key value).keys =
      if key ∈ entries.keys then entries.keys else entries.keys ++ [key] := by
  induction entries with
  | nil => simp [insert, keys]
  | cons entry rest ih =>
    unfold insert
    by_cases h : entry.1 = key
    · simp [keys, h]
    · have hne : ¬ key = entry.1 := fun e => h e.symm
      have hrest : (insert rest key value).map (·.1) =
          if key ∈ rest.map (·.1) then rest.map (·.1) else rest.map (·.1) ++ [key] := ih
      simp only [h, if_false, keys, List.map_cons, List.mem_cons, hne, false_or, hrest]
      by_cases hm : key ∈ rest.map (·.1) <;> simp only [hm, if_true, if_false, List.cons_append]

/-- Insertion keeps keys distinct. -/
theorem nodup_keys_insert {entries : Assoc κ α} (h : entries.keys.Nodup) (key : κ) (value : α) :
    (entries.insert key value).keys.Nodup := by
  rw [keys_insert]
  split
  · exact h
  · rename_i hm
    exact List.nodup_append.2 ⟨h, by simp, by
      intro a ha b hb
      simp only [List.mem_singleton] at hb
      subst hb
      exact fun e => hm (e ▸ ha)⟩

/-- An association that is built by insertion has distinct keys. -/
theorem nodup_keys_insertAll {entries : Assoc κ α} (h : entries.keys.Nodup) (pairs : List (κ × α)) :
    (entries.insertAll pairs).keys.Nodup := by
  induction pairs generalizing entries with
  | nil => exact h
  | cons p rest ih => exact ih (nodup_keys_insert h p.1 p.2)

end Assoc

end TaskEndpoints
