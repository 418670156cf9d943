import FieldText.Proofs.Bodies

/-!
Fields whose layout cannot be read.  Such a field is left unpadded, but it keeps options: the part of the
body that was taken for a layout ends at a colon, and what stands behind this colon is handed on as it is.

Where that colon stands is settled before the layout is read.  A colon in front of an alignment mark is
passed over, since it might be the pad.  When the layout turns out to be unreadable after all, nobody comes
back to it: the options then begin behind the next colon, or there are none.  This is the only way in which
an unreadable layout costs options.
-/

namespace FieldText
namespace Body

/-- What stands behind the first colon of a text; nothing, if there is no colon. -/
inductive IsBehindColon : Text → Text → Prop
  | colonFree {text : Text} (free : ':' ∉ text) : IsBehindColon text []
  | colon {front : Text} (free : ':' ∉ front) (options : Text) :
      IsBehindColon (front ++ ':' :: options) options

theorem isBehindColon_iff (text options : Text) :
    IsBehindColon text options ↔ afterColon (text.dropWhile (· ≠ ':')) = options := by
  constructor
  · intro behind
    cases behind with
    | colonFree free =>
        rw [(Text.cut_of_all (ne_colon_of_mem free)).2]
        rfl
    | colon free =>
        rw [(Text.cut_append (ne_colon_of_mem free) ':' rfl options).2]
        rfl
  · rintro rfl
    have free := colon_not_mem_takeWhile text
    rcases Text.cut_cases (· ≠ ':') text with ⟨whole, nothing⟩ | ⟨c, options, behind, colon, whole⟩
    · rw [whole] at free
      rw [nothing]
      exact .colonFree free
    · have isColon : c = ':' := by simpa using colon
      subst isColon
      have begins := IsBehindColon.colon free options
      rw [whole] at begins
      rw [behind]
      exact begins

theorem isBehindColon_cons {c : Char} (notColon : c ≠ ':') (text options : Text) :
    IsBehindColon (c :: text) options ↔ IsBehindColon text options := by
  rw [isBehindColon_iff, isBehindColon_iff, List.dropWhile_cons_of_pos (by simpa using notColon)]

/-- Behind one colon stands more than behind the next. -/
theorem not_isBehindColon_of_tail {text options : Text} (nonempty : text ≠ [])
    (behind : IsBehindColon text options) : ¬ IsBehindColon (':' :: text) options := by
  rw [isBehindColon_iff]
  rintro same
  have whole : text = options := same
  cases behind with
  | colonFree free => exact nonempty whole
  | @colon front free =>
      have lengths := congrArg List.length whole
      rw [List.length_append, List.length_cons] at lengths
      omega

/-! ## The options of a layout segment -/

/-- Whether a layout segment begins with a colon that would be the pad of a layout. -/
def beginsWithPadColon : Text → Bool
  | ':' :: rest => beginsWithMark rest
  | _ => false

theorem isBehindColon_tail_of_padColon {rest : Text} (mark : beginsWithMark rest = true) :
    IsBehindColon rest (cutLayout (':' :: rest)).2 := by
  cases rest with
  | nil => cases mark
  | cons second rest =>
      rw [cutLayout_of_mark mark, isBehindColon_iff]

theorem isBehindColon_cutLayout {segment : Text} (noPadColon : beginsWithPadColon segment = false) :
    IsBehindColon segment (cutLayout segment).2 := by
  by_cases marked : ∃ first rest, segment = first :: rest ∧ beginsWithMark rest = true
  · rcases marked with ⟨first, rest, rfl, mark⟩
    have notColon : first ≠ ':' := by
      rintro rfl
      exact Bool.false_ne_true (noPadColon.symm.trans mark)
    cases rest with
    | nil => cases mark
    | cons second rest =>
        -- The first character is passed over, but it is no colon anyway.
        rw [isBehindColon_cons notColon, cutLayout_of_mark mark, isBehindColon_iff]
  · have noMark : ∀ first rest, segment = first :: rest → beginsWithMark rest = false := by
      intro first rest same
      exact Bool.eq_false_iff.mpr fun mark => marked ⟨first, rest, same, mark⟩
    rw [cutLayout_of_not_mark noMark, isBehindColon_iff]

/-! ## Fields that fall back to no layout -/

/-- How the body of a field is read, given the text of the field, and the format string with the offset of
the field in it. -/
def readAt (offset : Int) (format source body : Text) : Reading Item :=
  read .recovering (fun kind => ⟨kind, offset, format⟩) source body

/-- A body with an index that can be read and a layout segment that gives cause for a recovery. -/
structure FallsBack (offset : Int) (format source index segment : Text) : Prop where
  separatorFree : ∀ c ∈ index, isSeparator c = false
  numeral : Numeral.isNumeral (Text.trim index) = true
  recovered : Notice.recovered ⟨.unreadableLayout, offset, format⟩ ∈
    (readAt offset format source (index ++ ',' :: segment)).notices

namespace FallsBack

variable {offset : Int} {format source index segment : Text}

theorem cut_eq (falls : FallsBack offset format source index segment) :
    cut (index ++ ',' :: segment) = ⟨index, some (cutLayout segment).1, (cutLayout segment).2⟩ :=
  cut_of_assembles (.segment falls.separatorFree (segments_cutLayout segment))

theorem layoutValue_eq_none (falls : FallsBack offset format source index segment) :
    layoutValue (cut (index ++ ',' :: segment)).layout = none := by
  have numeral : Numeral.isNumeral (Text.trim (cut (index ++ ',' :: segment)).index) = true := by
    rw [falls.cut_eq]
    exact falls.numeral
  have recovered := falls.recovered
  rw [readAt, read_of_numeral _ _ _ numeral] at recovered
  cases value : layoutValue (cut (index ++ ',' :: segment)).layout with
  | none => rfl
  | some layout =>
      -- Then the index alone would have been recovered from, which never happens.
      rw [Reading.notices_andThen (result_readIndex _ _), readLayout_of_readable _ _ value,
        Reading.notices_map] at recovered
      have isRecovery : Notice.recovered ⟨.unreadableLayout, offset, format⟩ ∈
          (readIndex source (Text.trim (cut (index ++ ',' :: segment)).index)).recoveries := by
        apply List.mem_filter.mpr
        exact ⟨by simpa [Reading.pure] using recovered, rfl⟩
      rw [recoveries_readIndex] at isRecovery
      cases isRecovery

theorem result_eq (falls : FallsBack offset format source index segment) :
    (readAt offset format source (index ++ ',' :: segment)).result =
      .ok (.field source ⟨indexValue (Text.trim index), Layout.unpadded, (cutLayout segment).2⟩) := by
  have unread := falls.layoutValue_eq_none
  rw [falls.cut_eq] at unread
  rw [readAt, result_read_recovering, falls.cut_eq]
  simp only [falls.numeral, unread, if_true, Option.getD_none]

end FallsBack

/-- A field whose layout cannot be read is left unpadded and keeps its index.  Its options stand behind the
first colon of the layout segment, unless this colon is the first character and a mark follows it: then they
stand behind the next colon, and those behind the first one are lost. -/
theorem read_of_fallsBack {offset : Int} {format source index segment : Text}
    (falls : FallsBack offset format source index segment) :
    ∃ options, (readAt offset format source (index ++ ',' :: segment)).result =
        .ok (.field source ⟨indexValue (Text.trim index), Layout.unpadded, options⟩) ∧
      (IsBehindColon segment options ↔ beginsWithPadColon segment = false) ∧
      ∀ rest, segment = ':' :: rest → beginsWithMark rest = true → IsBehindColon rest options := by
  refine ⟨(cutLayout segment).2, falls.result_eq, ⟨fun behind => ?_, isBehindColon_cutLayout⟩, ?_⟩
  · apply Bool.eq_false_iff.mpr
    intro padColon
    unfold beginsWithPadColon at padColon
    split at padColon
    · next rest =>
        have nonempty : rest ≠ [] := by
          rintro rfl
          cases padColon
        exact not_isBehindColon_of_tail nonempty (isBehindColon_tail_of_padColon padColon) behind
    · cases padColon
  · rintro rest rfl mark
    exact isBehindColon_tail_of_padColon mark

theorem fallsBack_junk : FallsBack 2 "ab\x7b0,1-:x:y\x7d".toList [] ['0'] "1-:x:y".toList where
  separatorFree := List.forall_mem_singleton.mpr rfl
  numeral := rfl
  recovered := by decide

theorem fallsBack_padColon : FallsBack 0 [] [] ['7', ' '] ":=x:o".toList where
  separatorFree := List.forall_mem_cons.mpr ⟨rfl, List.forall_mem_singleton.mpr rfl⟩
  numeral := rfl
  recovered := by decide

/-- Junk in front of a colon leaves the options alone, while a pad without a width takes a colon with it. -/
theorem read_of_fallsBack_junk :
    (readAt 2 "ab\x7b0,1-:x:y\x7d".toList [] "0,1-:x:y".toList).result =
        .ok (.field [] ⟨0, Layout.unpadded, "x:y".toList⟩) ∧
      (readAt 0 [] [] "7 ,:=x:o".toList).result = .ok (.field [] ⟨7, Layout.unpadded, ['o']⟩) ∧
        ¬ IsBehindColon ":=x:o".toList ['o'] := by
  rcases read_of_fallsBack fallsBack_junk with ⟨options, read, behind, _⟩
  rcases read_of_fallsBack fallsBack_padColon with ⟨others, readOther, behindOther, behindNext⟩
  have first := (isBehindColon_iff _ _).mp (behind.mpr rfl)
  have second := (isBehindColon_iff _ _).mp (behindNext "=x:o".toList rfl rfl)
  subst first second
  exact ⟨read, readOther, fun lost => Bool.false_ne_true (behindOther.mp lost).symm⟩

/-- The options do not always stand behind the first colon when a layout cannot be read: of a colon and a
mark alone nothing is left. -/
theorem not_isBehindColon_of_fallsBack :
    ¬ ∀ (offset : Int) (format source index segment : Text),
      FallsBack offset format source index segment →
        ∃ field, (readAt offset format source (index ++ ',' :: segment)).result =
          .ok (.field source field) ∧ IsBehindColon segment field.options := by
  intro keeps
  have falls : FallsBack 0 [] [] ['0'] [':', '-'] :=
    ⟨List.forall_mem_singleton.mpr rfl, rfl, by decide⟩
  rcases keeps 0 [] [] ['0'] [':', '-'] falls with ⟨field, read, behind⟩
  have same := Except.ok.inj (read.symm.trans falls.result_eq)
  rw [(Item.field.inj same).2] at behind
  exact absurd ((isBehindColon_iff _ _).mp behind) (by decide)

end Body
end FieldText
