import TaskEndpoints.Proofs.Assoc
import TaskEndpoints.Proofs.Text.Split
import TaskEndpoints.Proofs.Traversal
import TaskEndpoints.Tags

/-!
# Which texts are tags

A text is read piece by piece. A piece is a tag if it is split into a key and a value by its only `=`; the
pairs of all pieces are then collected. What is written from tags with distinct keys is read back as
those tags.

## Implementation notes

What a tag text is says nothing about the empty key, which is read like any other; it is a matter of
the settings to refuse it. So there are two descriptions of a piece: `SplitsTo` for what is read and `IsTag`
for what is accepted in the end.
-/

namespace TaskEndpoints

/-- A piece is a key and a value on the two sides of its only `=`. -/
structure SplitsTo (piece : List Char) (tag : String × String) : Prop where
  piece_eq : piece = tag.1.toList ++ '=' :: tag.2.toList
  key : '=' ∉ tag.1.toList
  value : '=' ∉ tag.2.toList

/-- A piece holds exactly one `=`, and at least one character stands before it. -/
def IsTag (piece : List Char) : Prop := piece.count '=' = 1 ∧ 0 < piece.idxOf '='

instance : DecidablePred IsTag := fun piece =>
  inferInstanceAs (Decidable (piece.count '=' = 1 ∧ 0 < piece.idxOf '='))

/-- Every piece between the commas is a tag. -/
def AreTags (text : String) : Prop := ∀ piece ∈ text.toList.splitOn ',', IsTag piece

/-- Tags whose text leads back to them: their keys are distinct and not empty, and the marks of the text
occur in none of them. -/
structure TagList (tags : List (String × String)) : Prop where
  ne_nil : tags ≠ []
  distinct : (tags.map (·.1)).Nodup
  named : ∀ tag ∈ tags, tag.1 ≠ ""
  unmarked : ∀ tag ∈ tags, ∀ part ∈ [tag.1, tag.2], ',' ∉ part.toList ∧ '=' ∉ part.toList

variable {piece : List Char} {tag : String × String} {text : String} {pairs : List (String × String)}

/-! ### One piece -/

theorem readTag_of_splitsTo (h : SplitsTo piece tag) : readTag piece = .ok tag := by
  have hpieces : ∀ part ∈ [tag.1.toList, tag.2.toList], '=' ∉ part := by
    intro part hpart
    rcases List.mem_pair.mp hpart with rfl | rfl
    · exact h.key
    · exact h.value
  have hjoined : piece = ['='].intercalate [tag.1.toList, tag.2.toList] := by
    rw [h.piece_eq, List.intercalate_cons_cons, List.intercalate_singleton, List.append_assoc,
      List.singleton_append]
  rw [readTag, hjoined, Text.splitAtEvery_intercalate hpieces (List.cons_ne_nil _ _)]
  simp

/-- Exactly the pieces with one `=` are read, as what stands on its two sides. -/
theorem readTag_eq_ok_iff : readTag piece = .ok tag ↔ SplitsTo piece tag := by
  refine ⟨fun h => ?_, readTag_of_splitsTo⟩
  have hjoined := Text.intercalate_splitAtEvery '=' piece
  rw [readTag] at h
  split at h
  · rename_i key value hsplit
    obtain rfl := Except.ok.inj h
    have hparts : ∀ part ∈ Text.splitAtEvery '=' piece, '=' ∉ part :=
      Text.not_mem_of_mem_splitAtEvery
    rw [hsplit] at hparts hjoined
    refine ⟨?_, ?_, ?_⟩
    · rw [← hjoined, String.toList_ofList, String.toList_ofList, List.intercalate_cons_cons,
        List.intercalate_singleton, List.append_assoc, List.singleton_append]
    · exact String.toList_ofList ▸ hparts key List.mem_cons_self
    · exact String.toList_ofList ▸ hparts value (List.mem_pair.mpr (Or.inr rfl))
  · cases h

theorem SplitsTo.isTag_iff (h : SplitsTo piece tag) : IsTag piece ↔ tag.1 ≠ "" := by
  have hcount : piece.count '=' = 1 := by
    rw [h.piece_eq, List.count_append, List.count_cons_self, List.count_eq_zero.mpr h.key,
      List.count_eq_zero.mpr h.value]
  have hindex : piece.idxOf '=' = tag.1.toList.length := by
    rw [h.piece_eq, List.idxOf_append_of_notMem h.key, List.idxOf_cons_self, Nat.add_zero]
  rw [IsTag, hcount, hindex, List.length_pos_iff, ne_eq, ne_eq, String.toList_eq_nil_iff]
  exact and_iff_right rfl

theorem IsTag.exists_splitsTo (h : IsTag piece) : ∃ tag, SplitsTo piece tag := by
  have hmem : '=' ∈ piece := List.count_pos_iff.mp (h.1 ▸ Nat.one_pos)
  obtain ⟨key, value, rfl, hkey⟩ := List.eq_append_cons_of_mem hmem
  have hvalue : '=' ∉ value := by
    have hcount := h.1
    rw [List.count_append, List.count_cons_self, List.count_eq_zero.mpr hkey] at hcount
    exact List.count_eq_zero.mp (by omega)
  refine ⟨(String.ofList key, String.ofList value), ?_, ?_, ?_⟩
  · rw [String.toList_ofList, String.toList_ofList]
  · rwa [String.toList_ofList]
  · rwa [String.toList_ofList]

/-! ### All pieces -/

/-- A text is read if each of its pieces has one `=`, and the pairs are then collected. -/
theorem readTags_eq_ok_iff {tags : Assoc String String} :
    readTags text = .ok tags ↔ ∃ pairs, List.Forall₂ SplitsTo (text.toList.splitOn ',') pairs ∧
      Assoc.ofPairs pairs = tags := by
  rw [readTags, Text.splitAtEvery_eq_splitOn, bind_eq_ok_iff]
  simp only [mapM_eq_ok_iff, readTag_eq_ok_iff, pure, Except.pure, Except.ok.injEq]

theorem exists_pairs_of_areTags (h : AreTags text) :
    ∃ pairs, List.Forall₂ SplitsTo (text.toList.splitOn ',') pairs := by
  have hread : ∀ piece ∈ text.toList.splitOn ',', ∃ tag, readTag piece = .ok tag := by
    intro piece hpiece
    obtain ⟨tag, htag⟩ := (h piece hpiece).exists_splitsTo
    exact ⟨tag, readTag_eq_ok_iff.mpr htag⟩
  obtain ⟨pairs, hpairs⟩ := mapM_isOk_iff.mpr hread
  exact ⟨pairs, (forall₂_of_mapM hpairs).imp fun _ _ => readTag_eq_ok_iff.mp⟩

/-- Of a text that is read, the pieces are tags if no key is empty. -/
theorem areTags_iff_of_pairs (h : List.Forall₂ SplitsTo (text.toList.splitOn ',') pairs) :
    AreTags text ↔ ∀ key ∈ (Assoc.ofPairs pairs).keys, key ≠ "" := by
  rw [AreTags, Assoc.keys_ofPairs]
  simp only [List.mem_eraseDups, List.forall_mem_map]
  generalize text.toList.splitOn ',' = pieces at h ⊢
  induction h with
  | nil => exact iff_of_true (List.forall_mem_nil _) (List.forall_mem_nil _)
  | cons hpiece hpieces ih =>
      rw [List.forall_mem_cons, List.forall_mem_cons, hpiece.isTag_iff, ih]

/-! ### The way back -/

theorem TagList.splitsTo (h : TagList pairs) (hm : tag ∈ pairs) :
    SplitsTo (tag.1 ++ "=" ++ tag.2).toList tag where
  piece_eq := by
    rw [String.toList_append, String.toList_append, List.append_assoc]
    rfl
  key := (h.unmarked tag hm tag.1 List.mem_cons_self).2
  value := (h.unmarked tag hm tag.2 (List.mem_pair.mpr (Or.inr rfl))).2

/-- The pieces of a written text are those that were joined. -/
theorem TagList.splitOn_writeTags (h : TagList pairs) :
    (writeTags pairs).toList.splitOn ',' = pairs.map fun tag => (tag.1 ++ "=" ++ tag.2).toList := by
  have hjoined : (writeTags pairs).toList =
      [','].intercalate (pairs.map fun tag => (tag.1 ++ "=" ++ tag.2).toList) := by
    rw [writeTags, String.toList_intercalate, List.map_map]
    rfl
  rw [hjoined]
  apply List.splitOn_intercalate
  · intro piece hpiece
    obtain ⟨tag, hm, rfl⟩ := List.mem_map.mp hpiece
    have hkey := (h.unmarked tag hm tag.1 List.mem_cons_self).1
    have hvalue := (h.unmarked tag hm tag.2 (List.mem_pair.mpr (Or.inr rfl))).1
    rw [(h.splitsTo hm).piece_eq, List.mem_append, List.mem_cons, not_or, not_or]
    exact ⟨hkey, by decide, hvalue⟩
  · exact fun hnil => h.ne_nil (List.map_eq_nil_iff.mp hnil)

theorem TagList.pairs_writeTags (h : TagList pairs) :
    List.Forall₂ SplitsTo ((writeTags pairs).toList.splitOn ',') pairs := by
  rw [h.splitOn_writeTags, List.forall₂_map_left_iff]
  exact List.forall₂_same.mpr fun tag hm => h.splitsTo hm

/-- What is written from tags is read back as those tags. -/
theorem readTags_writeTags (h : TagList pairs) : readTags (writeTags pairs) = .ok pairs :=
  readTags_eq_ok_iff.mpr
    ⟨pairs, h.pairs_writeTags, (Assoc.collects_self h.distinct).ofPairs_eq⟩

theorem TagList.areTags (h : TagList pairs) : AreTags (writeTags pairs) := by
  rw [areTags_iff_of_pairs h.pairs_writeTags, (Assoc.collects_self h.distinct).ofPairs_eq]
  exact List.forall_mem_map.mpr h.named

example : readTags "a=1,b=,a=2" = .ok [("a", "2"), ("b", "")] := by decide

end TaskEndpoints
