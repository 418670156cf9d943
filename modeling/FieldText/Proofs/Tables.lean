import FieldText.Toml.Document
import Mathlib.Data.List.Nodup

/-!
No key occurs twice in a table.  This holds of every table in a document, at any depth, and it is what makes
the order of the keys insignificant.  It is not stated in the type of tables, which are lists of entries, but
kept by all that is done to them: a key is added where there was none, a value is put in the place of the old
one, and a path is followed through tables of which the same holds.
-/

namespace FieldText

/-! ## Outcomes and entries -/

section Outcomes

variable {ε α β : Type}

theorem bind_eq_ok_iff {outcome : Except ε α} {next : α → Except ε β} {result : β} :
    outcome >>= next = .ok result ↔ ∃ value, outcome = .ok value ∧ next value = .ok result := by
  cases outcome with
  | error fault => exact ⟨nofun, nofun⟩
  | ok value => exact ⟨fun same => ⟨value, rfl, same⟩, fun ⟨_, found, same⟩ => Except.ok.inj found ▸ same⟩

theorem map_eq_ok_iff {outcome : Except ε α} {change : α → β} {result : β} :
    outcome.map change = .ok result ↔ ∃ value, outcome = .ok value ∧ change value = result := by
  cases outcome with
  | error fault => exact ⟨nofun, nofun⟩
  | ok value => simp [Except.map]

end Outcomes

theorem not_mem_keys_of_lookup {α : Type} {entries : List (Text × α)} {key : Text}
    (missing : entries.lookup key = none) : key ∉ entries.map Prod.fst := by
  intro member
  rcases List.mem_map.mp member with ⟨entry, inside, rfl⟩
  simpa using List.lookup_eq_none_iff.mp missing entry inside

namespace Toml

/-! ## Distinct keys -/

/-- No key occurs twice in any table that a value consists of. -/
inductive HasDistinctKeys : Value → Prop
  | simple {value : Value} (noParts : isComplete value = false) : HasDistinctKeys value
  | array {elements : List Value} (each : ∀ element ∈ elements, HasDistinctKeys element) :
      HasDistinctKeys (.array elements)
  | table {entries : Table} (nodup : (entries.map Prod.fst).Nodup)
      (each : ∀ entry ∈ entries, HasDistinctKeys entry.2) : HasDistinctKeys (.table entries)

/-- No key occurs twice in a table or in any table in it. -/
structure Table.IsDistinct (table : Table) : Prop where
  nodup : (table.map Prod.fst).Nodup
  each : ∀ entry ∈ table, HasDistinctKeys entry.2

theorem hasDistinctKeys_table_iff (entries : Table) : HasDistinctKeys (.table entries) ↔ entries.IsDistinct := by
  constructor
  · rintro (noParts | _ | ⟨nodup, each⟩)
    · cases noParts
    · exact ⟨nodup, each⟩
  · rintro ⟨nodup, each⟩
    exact .table nodup each

theorem hasDistinctKeys_array_iff (elements : List Value) :
    HasDistinctKeys (.array elements) ↔ ∀ element ∈ elements, HasDistinctKeys element := by
  constructor
  · rintro (noParts | each | _)
    · cases noParts
    · exact each
  · exact .array

namespace Table

theorem isDistinct_nil : IsDistinct [] := ⟨List.nodup_nil, nofun⟩

variable {table : Table} {key : Text} {value : Value}

theorem IsDistinct.of_lookup (distinct : table.IsDistinct) (found : table.lookup key = some value) :
    HasDistinctKeys value := by
  rcases List.lookup_eq_some_iff.mp found with ⟨front, back, rfl, _⟩
  exact distinct.each (key, value) (by simp)

/-- A key that is set keeps its place, or comes last if it is new. -/
theorem keys_assign (table : Table) (key : Text) (value : Value) :
    (table.assign key value).map Prod.fst =
      if key ∈ table.map Prod.fst then table.map Prod.fst else table.map Prod.fst ++ [key] := by
  induction table with
  | nil => rfl
  | cons entry rest inductionHypothesis =>
      by_cases same : entry.1 = key
      · simp [assign, same]
      · have apart : key ≠ entry.1 := Ne.symm same
        simp only [assign, same, if_false, List.map_cons, inductionHypothesis, List.mem_cons, apart, false_or]
        split <;> rfl

theorem eq_or_mem_of_mem_assign {entry : Text × Value} (member : entry ∈ table.assign key value) :
    entry = (key, value) ∨ entry ∈ table := by
  induction table with
  | nil => exact .inl (List.mem_singleton.mp member)
  | cons first rest inductionHypothesis =>
      unfold assign at member
      split at member
      · rcases List.mem_cons.mp member with same | behind
        · exact .inl same
        · exact .inr (List.mem_cons_of_mem _ behind)
      · rcases List.mem_cons.mp member with same | behind
        · exact .inr (same ▸ List.mem_cons_self)
        · exact (inductionHypothesis behind).imp_right (List.mem_cons_of_mem _)

theorem IsDistinct.assign (distinct : table.IsDistinct) (key : Text) (proper : HasDistinctKeys value) :
    (table.assign key value).IsDistinct := by
  constructor
  · rw [keys_assign]
    split
    · exact distinct.nodup
    · next missing =>
        rw [← List.concat_eq_append]
        exact distinct.nodup.concat missing
  · intro entry member
    rcases eq_or_mem_of_mem_assign member with rfl | old
    · exact proper
    · exact distinct.each entry old

theorem IsDistinct.add? {changed : Table} (distinct : table.IsDistinct) (proper : HasDistinctKeys value)
    (added : table.add? key value = some changed) : changed.IsDistinct := by
  unfold Table.add? at added
  split at added
  · cases added
  · next missing =>
      cases added
      rw [Bool.not_eq_true, Option.isSome_eq_false_iff, Option.isNone_iff_eq_none] at missing
      constructor
      · rw [List.map_append, List.map_singleton, ← List.concat_eq_append]
        exact distinct.nodup.concat (not_mem_keys_of_lookup missing)
      · intro entry member
        rcases List.mem_append.mp member with old | new
        · exact distinct.each entry old
        · rw [List.mem_singleton.mp new]
          exact proper

/-- A change that keeps keys distinct. -/
def KeepsDistinct (change : Table → Option Table) : Prop :=
  ∀ ⦃table changed : Table⦄, table.IsDistinct → change table = some changed → changed.IsDistinct

theorem hasDistinctKeys_changeLast? {change : Table → Option Table} (keeps : KeepsDistinct change)
    {elements : List Value} (proper : HasDistinctKeys (.array elements)) {changed : Value}
    (changes : changeLast? change elements = some changed) : HasDistinctKeys changed := by
  rw [hasDistinctKeys_array_iff] at proper
  unfold changeLast? at changes
  split at changes
  · next entries last =>
      rcases Option.map_eq_some_iff.mp changes with ⟨new, made, rfl⟩
      have distinct := (hasDistinctKeys_table_iff _).mp (proper _ (List.mem_of_getLast? last))
      rw [hasDistinctKeys_array_iff]
      intro element member
      rcases List.mem_append.mp member with old | added
      · exact proper element ((List.dropLast_sublist elements).subset old)
      · rw [List.mem_singleton.mp added, hasDistinctKeys_table_iff]
        exact keeps distinct made
  · cases changes

/-- A change at the end of a path changes the tables on the way, and they keep their keys distinct if the
change does. -/
theorem keepsDistinct_changeAt? (throughArrays : Bool) {change : Table → Option Table}
    (keeps : KeepsDistinct change) (path : Path) : KeepsDistinct (changeAt? throughArrays change path) := by
  induction path with
  | nil => exact keeps
  | cons key path inductionHypothesis =>
      intro table changed distinct changes
      unfold changeAt? at changes
      split at changes
      · rcases Option.map_eq_some_iff.mp changes with ⟨new, made, rfl⟩
        exact distinct.assign key ((hasDistinctKeys_table_iff _).mpr (inductionHypothesis isDistinct_nil made))
      · next entries found =>
          rcases Option.map_eq_some_iff.mp changes with ⟨new, made, rfl⟩
          have inside := (hasDistinctKeys_table_iff _).mp (distinct.of_lookup found)
          exact distinct.assign key ((hasDistinctKeys_table_iff _).mpr (inductionHypothesis inside made))
      · next elements found =>
          split at changes
          · rcases Option.map_eq_some_iff.mp changes with ⟨new, made, rfl⟩
            exact distinct.assign key
              (hasDistinctKeys_changeLast? inductionHypothesis (distinct.of_lookup found) made)
          · cases changes
      · cases changes

theorem keepsDistinct_add? (key : Text) (proper : HasDistinctKeys value) : KeepsDistinct (add? key value) :=
  fun _ _ distinct added => distinct.add? proper added

theorem keepsDistinct_appendTable? (key : Text) : KeepsDistinct (appendTable? key) := by
  have empty : HasDistinctKeys (.table []) := (hasDistinctKeys_table_iff []).mpr isDistinct_nil
  intro table changed distinct changes
  unfold appendTable? at changes
  split at changes
  · cases changes
    exact distinct.assign key (.array (List.forall_mem_singleton.mpr empty))
  · next elements found =>
      cases changes
      have proper := (hasDistinctKeys_array_iff _).mp (distinct.of_lookup found)
      exact distinct.assign key
        (.array (List.forall_mem_append.mpr ⟨proper, List.forall_mem_singleton.mpr empty⟩))
  · cases changes

theorem keepsDistinct_some : KeepsDistinct some := fun _ _ distinct same => Option.some.inj same ▸ distinct

end Table

/-! ## Reading values -/

/-- Every value that is read has distinct keys. -/
def YieldsDistinct (outcome : Except Failure (Value × Text)) : Prop :=
  ∀ value rest, outcome = .ok (value, rest) → HasDistinctKeys value

theorem yieldsDistinct_malformed : YieldsDistinct malformed := nofun

theorem yieldsDistinct_of_simple {value : Value} (noParts : isComplete value = false) (rest : Text) :
    YieldsDistinct (.ok (value, rest)) := by
  rintro _ _ ⟨⟩
  exact .simple noParts

theorem yieldsDistinct_text (outcome : Except Failure (Text × Text)) :
    YieldsDistinct (outcome.map fun parts => (.text parts.1, parts.2)) := by
  intro value rest read
  rcases map_eq_ok_iff.mp read with ⟨parts, _, same⟩
  cases same
  exact .simple rfl

theorem yieldsDistinct_readMoment? {text : Text} {outcome : Except Failure (Value × Text)}
    (read : readMoment? text = some outcome) : YieldsDistinct outcome := by
  unfold readMoment? at read
  split at read
  · cases read
    split
    · exact yieldsDistinct_malformed
    · exact yieldsDistinct_of_simple rfl _
  · rcases Option.map_eq_some_iff.mp read with ⟨rest, _, rfl⟩
    exact yieldsDistinct_of_simple rfl _

theorem yieldsDistinct_readMarked? {text : Text} {parts : Value × Text} (read : readMarked? text = some parts) :
    YieldsDistinct (.ok parts) := by
  unfold readMarked? at read
  split at read
  · rcases Option.map_eq_some_iff.mp read with ⟨digits, _, rfl⟩
    exact yieldsDistinct_of_simple rfl _
  · cases read

theorem yieldsDistinct_readDecimal? {text : Text} {outcome : Except Failure (Value × Text)}
    (read : readDecimal? text = some outcome) : YieldsDistinct outcome := by
  rcases Option.map_eq_some_iff.mp read with ⟨whole, _, rfl⟩
  dsimp only
  split
  · split
    · exact yieldsDistinct_of_simple rfl _
    · exact nofun
  · split
    · exact yieldsDistinct_of_simple rfl _
    · exact yieldsDistinct_malformed

theorem yieldsDistinct_readSpecial? {text : Text} {parts : Value × Text} (read : readSpecial? text = some parts) :
    YieldsDistinct (.ok parts) := by
  simp only [readSpecial?] at read
  split at read
  · cases read
    exact yieldsDistinct_of_simple rfl _
  · split at read
    · cases read
      exact yieldsDistinct_of_simple rfl _
    · cases read

theorem isDistinct_addInline {complete : List Path} {path : Path} {value : Value} {table changed : Table}
    (proper : HasDistinctKeys value) (distinct : table.IsDistinct)
    (added : addInline complete path value table = .ok changed) : changed.IsDistinct := by
  unfold addInline at added
  split at added
  · cases added
  · split at added
    · cases added
    · next key _ =>
        split at added
        · next new changes =>
            cases added
            exact Table.keepsDistinct_changeAt? false (Table.keepsDistinct_add? key proper) _ distinct changes
        · cases added

/-- Room for a step keeps keys distinct in values, in the elements of arrays and in tables on one line. -/
structure ReadsDistinct (room : Nat) : Prop where
  value : ∀ text, YieldsDistinct (readValueWithin room text)
  elements : ∀ text values rest, readElementsWithin room text = .ok (values, rest) →
    ∀ value ∈ values, HasDistinctKeys value
  inline : ∀ complete table text changed rest, table.IsDistinct →
    readInlineWithin room complete table text = .ok (changed, rest) → changed.IsDistinct

theorem ReadsDistinct.readValue {room : Nat} (reads : ReadsDistinct room) (text : Text) :
    YieldsDistinct (readValueWithin (room + 1) text) := by
  unfold readValueWithin
  split
  · next rest =>
      intro value rest read
      simp only [bind_eq_ok_iff, Prod.exists] at read
      rcases read with ⟨_, _, elements, _, inside, same⟩
      cases same
      exact .array (reads.elements _ _ _ inside)
  · next rest =>
      split
      · exact fun _ _ same => by cases same; exact (hasDistinctKeys_table_iff []).mpr Table.isDistinct_nil
      · intro value rest read
        simp only [bind_eq_ok_iff, Prod.exists] at read
        rcases read with ⟨table, _, inside, same⟩
        cases same
        exact (hasDistinctKeys_table_iff _).mpr (reads.inline _ _ _ _ _ Table.isDistinct_nil inside)
  · split_ifs
    · exact yieldsDistinct_text _
    · exact yieldsDistinct_text _
    · exact yieldsDistinct_text _
    · exact yieldsDistinct_text _
    · exact yieldsDistinct_of_simple rfl _
    · exact yieldsDistinct_of_simple rfl _
    · split
      · next read => exact yieldsDistinct_readMoment? read
      · split
        · next read => exact yieldsDistinct_readMarked? read
        · split
          · next read => exact yieldsDistinct_readDecimal? read
          · split
            · next read => exact yieldsDistinct_readSpecial? read
            · exact yieldsDistinct_malformed

theorem ReadsDistinct.readElements {room : Nat} (reads : ReadsDistinct room) (text : Text)
    (values : List Value) (rest : Text) (read : readElementsWithin (room + 1) text = .ok (values, rest)) :
    ∀ value ∈ values, HasDistinctKeys value := by
  unfold readElementsWithin at read
  split at read
  · cases read
    exact nofun
  · simp only [bind_eq_ok_iff, Prod.exists] at read
    rcases read with ⟨value, behind, first, left, _, read⟩
    have proper := reads.value _ _ _ first
    split at read
    · cases read
      exact List.forall_mem_singleton.mpr proper
    · simp only [bind_eq_ok_iff, Prod.exists] at read
      rcases read with ⟨_, _, others, _, inside, same⟩
      cases same
      exact List.forall_mem_cons.mpr ⟨proper, reads.elements _ _ _ inside⟩
    · cases read

theorem ReadsDistinct.readInline {room : Nat} (reads : ReadsDistinct room) (complete : List Path)
    (table : Table) (text : Text) (changed : Table) (rest : Text) (distinct : table.IsDistinct)
    (read : readInlineWithin (room + 1) complete table text = .ok (changed, rest)) : changed.IsDistinct := by
  simp only [readInlineWithin, bind_eq_ok_iff, Prod.exists] at read
  rcases read with ⟨path, _, _, read⟩
  split at read
  · simp only [bind_eq_ok_iff, Prod.exists] at read
    rcases read with ⟨_, _, value, _, inside, next, added, read⟩
    have nextDistinct := isDistinct_addInline (reads.value _ _ _ inside) distinct added
    split at read
    · cases read
      exact nextDistinct
    · exact reads.inline _ _ _ _ _ nextDistinct read
    · cases read
  · cases read

theorem readsDistinct (room : Nat) : ReadsDistinct room := by
  induction room with
  | zero => exact ⟨nofun, nofun, nofun⟩
  | succ room inductionHypothesis =>
      exact ⟨inductionHypothesis.readValue, inductionHypothesis.readElements, inductionHypothesis.readInline⟩

/-! ## Reading documents -/

namespace Document

variable {document changed : Document}

theorem isDistinct_beginTable {path : Path} (distinct : document.table.IsDistinct)
    (begun : document.beginTable path = .ok changed) : changed.table.IsDistinct := by
  unfold beginTable at begun
  split at begun
  · cases begun
  · split at begun
    · cases begun
    · next changes =>
        cases begun
        exact Table.keepsDistinct_changeAt? true Table.keepsDistinct_some path distinct changes

theorem isDistinct_beginElement {path : Path} (distinct : document.table.IsDistinct)
    (begun : document.beginElement path = .ok changed) : changed.table.IsDistinct := by
  unfold beginElement at begun
  split at begun
  · cases begun
  · dsimp only at begun
    split at begun
    · cases begun
    · next key _ =>
        split at begun
        · cases begun
        · next changes =>
            cases begun
            exact Table.keepsDistinct_changeAt? true (Table.keepsDistinct_appendTable? key) _ distinct changes

theorem isDistinct_add {path : Path} {value : Value} (distinct : document.table.IsDistinct)
    (proper : HasDistinctKeys value) (added : document.add path value = .ok changed) :
    changed.table.IsDistinct := by
  unfold add at added
  dsimp only at added
  split at added
  · cases added
  · split at added
    · cases added
    · next key _ =>
        split at added
        · cases added
        · next changes =>
            cases added
            exact Table.keepsDistinct_changeAt? true (Table.keepsDistinct_add? key proper) _ distinct changes

/-- A statement keeps the keys of a document distinct. -/
theorem isDistinct_readStatement {text rest : Text} (distinct : document.table.IsDistinct)
    (read : document.readStatement text = .ok (changed, rest)) : changed.table.IsDistinct := by
  have settled : document.settle.table.IsDistinct := distinct
  unfold readStatement at read
  split at read
  · simp only [bind_eq_ok_iff, Prod.exists] at read
    rcases read with ⟨path, _, _, begun, made, read⟩
    split at read
    · cases read
      exact isDistinct_beginElement settled made
    · cases read
  · simp only [bind_eq_ok_iff, Prod.exists] at read
    rcases read with ⟨path, _, _, begun, made, read⟩
    split at read
    · cases read
      exact isDistinct_beginTable settled made
    · cases read
  · cases read
    exact distinct
  · split at read
    · simp only [bind_eq_ok_iff, Prod.exists] at read
      rcases read with ⟨path, _, _, read⟩
      split at read
      · simp only [bind_eq_ok_iff, Prod.exists] at read
        rcases read with ⟨_, _, value, _, inside, next, added, same⟩
        cases same
        exact isDistinct_add distinct ((readsDistinct _).value _ _ _ inside) added
      · cases read
    · cases read
  · cases read
    exact distinct

/-- Lines keep the keys of a document distinct. -/
theorem isDistinct_readLinesWithin {room : Nat} {text : Text} (distinct : document.table.IsDistinct)
    (read : readLinesWithin room document text = .ok changed) : changed.table.IsDistinct := by
  induction room generalizing document text with
  | zero => cases read
  | succ room inductionHypothesis =>
      unfold readLinesWithin at read
      split at read
      · cases read
        exact distinct
      · exact inductionHypothesis distinct read
      · simp only [bind_eq_ok_iff, Prod.exists] at read
        rcases read with ⟨next, _, statement, _, _, read⟩
        have nextDistinct := isDistinct_readStatement distinct statement
        split at read
        · cases read
          exact nextDistinct
        · exact inductionHypothesis nextDistinct read
        · cases read

end Document

/-- No key occurs twice in a document or in any table in it. -/
theorem isDistinct_read {text : Text} {table : Table} (parsed : read text = .ok table) : table.IsDistinct := by
  rcases map_eq_ok_iff.mp parsed with ⟨document, lines, rfl⟩
  exact Document.isDistinct_readLinesWithin Table.isDistinct_nil lines

end Toml
end FieldText
