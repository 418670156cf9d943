import FieldText.Proofs.Degradations
import FieldText.Proofs.Displays
import FieldText.Proofs.Permanence
import Mathlib

/-!
What the commands reject.  The command that renders and the command that parses find their configuration
in the same way, and the work that follows is different; but arguments from a command line are scalars,
which can always be bound, so the format string is all that is left to be rejected.  Both commands thus
reject the same inputs, with the same words and before anything is printed: a configuration that cannot
be loaded, and, when strict parsing is asked for, a format string that strict parsing does not accept.

The one exception is an integer in the configuration that has too many digits.  It ends a run of either
command without an explanation, even where strict parsing would have rejected the format string.
-/

namespace FieldText

/-! ## Strict configurations -/

namespace Config

/-- The environment has no part in reading a file. -/
theorem load_eq_map (file : Option (List UInt8)) (environment : Environment) :
    load file environment = (load file []).map (override environment) := by
  cases file with
  | none => rfl
  | some bytes =>
      simp only [load]
      cases String.fromUTF8? (ByteArray.mk (withoutMark bytes).toArray) with
      | none => rfl
      | some text =>
          dsimp only
          cases ofText text.toList <;> rfl

theorem strict_override (environment : Environment) (config : Config) :
    (override environment config).parsing.strict = true ↔
      config.parsing.strict = true ∨ flagEnabled (environment.lookup strictVariable) = true := by
  cases enabled : flagEnabled (environment.lookup strictVariable) <;> simp [override, enabled]

/-- The bytes of a text. -/
def bytesOf (text : Text) : List UInt8 := text.flatMap String.utf8EncodeChar

theorem fromUTF8?_bytesOf (text : Text) :
    String.fromUTF8? (ByteArray.mk (bytesOf text).toArray) = some (String.ofList text) := by
  have bytes : ByteArray.mk (bytesOf text).toArray = (String.ofList text).toByteArray := by
    apply ByteArray.ext
    exact List.data_toByteArray.symm
  rw [bytes]
  unfold String.fromUTF8?
  rw [dif_pos (String.ofList text).isValidUTF8]
  rfl

theorem load_bytesOf {text : Text} (noMark : withoutMark (bytesOf text) = bytesOf text)
    (environment : Environment) :
    load (some (bytesOf text)) environment = (ofText text).map (override environment) := by
  simp only [load, noMark, fromUTF8?_bytesOf, String.toList_ofList]

end Config

namespace CommandLine

/-- The configuration that a run finds, before the environment and the common flags change it: that of
the file, if one is named, and else the default one. -/
def storedConfig (common : Words) (environment : Environment) (readFile : Text → Option (List UInt8)) :
    Except LoadFailure Config :=
  match configFile? common environment with
  | none => .ok Config.default
  | some path => Config.load (readFile path) []

/-- Strict parsing is asked for by a flag, by the configuration that is found, or by the environment. -/
def IsStrict (common : Words) (environment : Environment) (readFile : Text → Option (List UInt8)) : Prop :=
  common.hasFlag "strict".toList = true ∨
    (∃ stored, storedConfig common environment readFile = .ok stored ∧ stored.parsing.strict = true) ∨
      Config.flagEnabled (environment.lookup Config.strictVariable) = true

/-- What the common flags change about a configuration. -/
def withFlags (common : Words) (config : Config) : Config where
  parsing := if common.hasFlag "strict".toList then ⟨true⟩ else config.parsing
  render := config.render
  command := ⟨config.command.coerceArguments,
    common.hasFlag "no_color".toList || config.command.noColor⟩

section

variable {common : Words} {environment : Environment} {readFile : Text → Option (List UInt8)}

theorem selectConfig_eq_map :
    selectConfig common environment readFile =
      (storedConfig common environment readFile).map fun stored =>
        withFlags common (Config.override environment stored) := by
  have applied : (fun config : Config =>
      let config := if common.hasFlag "strict".toList then { config with parsing := ⟨true⟩ } else config
      if common.hasFlag "no_color".toList then
        { config with command := { config.command with noColor := true } }
      else config) = withFlags common := by
    funext config
    unfold withFlags
    cases common.hasFlag "strict".toList <;> cases common.hasFlag "no_color".toList <;> rfl
  simp only [selectConfig, storedConfig, applied]
  cases configFile? common environment with
  | none => rfl
  | some path =>
      dsimp only
      rw [Config.load_eq_map]
      cases Config.load (readFile path) [] <;> rfl

theorem selectConfig_of_found {stored : Config}
    (found : storedConfig common environment readFile = .ok stored) :
    selectConfig common environment readFile =
      .ok (withFlags common (Config.override environment stored)) := by
  rw [selectConfig_eq_map, found]
  rfl

theorem selectConfig_of_failed {failure : LoadFailure}
    (failed : storedConfig common environment readFile = .error failure) :
    selectConfig common environment readFile = .error failure := by
  rw [selectConfig_eq_map, failed]
  rfl

/-- The configuration that is selected is strict if strictness is asked for anywhere. -/
theorem strict_withFlags_iff {stored : Config}
    (found : storedConfig common environment readFile = .ok stored) :
    (withFlags common (Config.override environment stored)).parsing.strict = true ↔
      IsStrict common environment readFile := by
  have asked : IsStrict common environment readFile ↔ common.hasFlag "strict".toList = true ∨
      (Config.override environment stored).parsing.strict = true := by
    rw [Config.strict_override, IsStrict, found]
    simp
  rw [asked, withFlags]
  cases common.hasFlag "strict".toList with
  | true => simp
  | false => simp

end

/-! ## Command lines that ask for a command -/

/-- The options of a command. -/
def Command.rules : Command → List OptionRule
  | render => renderRules
  | parse => parseRules

/-- A command line asks for a command, with these common options in front of it and these words behind.
What stands behind the common options does not belong to them. -/
def Asks (arguments : List Text) (command : Command) (common words : Words) : Prop :=
  ∃ operands unsorted, invocation? arguments = some ⟨{ common with operands := operands }, command, unsorted⟩ ∧
    sort command.rules true unsorted = some words

/-- Run a command with its words sorted out. -/
def runSorted (host : Host) (config : Config) (environment : Environment) (command : Command)
    (words : Words) : Outcome :=
  match command with
  | .render => runRender host config environment words
  | .parse => runParse host config words

section

variable {host : Host} {arguments : List Text} {command : Command} {common words : Words}
  {environment : Environment} {readFile : Text → Option (List UInt8)}

theorem Asks.run_of_found (asks : Asks arguments command common words) {stored : Config}
    (found : storedConfig common environment readFile = .ok stored) :
    run host arguments environment readFile =
      runSorted host (withFlags common (Config.override environment stored)) environment command words := by
  rcases asks with ⟨operands, unsorted, invoked, sorted⟩
  have selected : selectConfig { common with operands := operands } environment readFile =
      .ok (withFlags common (Config.override environment stored)) := selectConfig_of_found found
  simp only [run, invoked, selected, runCommand]
  cases command with
  | render =>
      rw [Command.rules] at sorted
      simp only [sorted, runSorted]
  | parse =>
      rw [Command.rules] at sorted
      simp only [sorted, runSorted]

theorem Asks.run_of_failed (asks : Asks arguments command common words) {failure : LoadFailure}
    (failed : storedConfig common environment readFile = .error failure) :
    run host arguments environment readFile =
      loadOutcome ((configFile? common environment).getD []) failure := by
  rcases asks with ⟨operands, unsorted, invoked, _⟩
  have selected : selectConfig { common with operands := operands } environment readFile =
      .error failure := selectConfig_of_failed failed
  simp only [run, invoked, selected]
  rfl

end

/-! ## Rejections -/

/-- A run that ends with an error that is explained, before anything is printed. -/
def Outcome.IsRejection (outcome : Outcome) : Prop := ∃ message, outcome = Outcome.explained message

namespace Outcome

theorem not_isRejection_done (output : Text) (notices : List Notice) :
    ¬ (done output notices).IsRejection := by
  rintro ⟨message, same⟩
  cases same

theorem not_isRejection_broken (output : Text) (fault : Fault) (notices : List Notice) :
    ¬ (broken output fault notices).IsRejection := by
  rintro ⟨message, same⟩
  cases same

end Outcome

theorem isRejection_loadOutcome_iff (path : Text) (failure : LoadFailure) :
    (loadOutcome path failure).IsRejection ↔ failure ≠ .numeralTooLong := by
  cases failure with
  | missingFile => exact iff_of_true ⟨_, rfl⟩ nofun
  | invalid error => exact iff_of_true ⟨_, rfl⟩ nofun
  | numeralTooLong => exact iff_of_false (Outcome.not_isRejection_broken _ _ _) (not_not_intro rfl)

theorem isBuiltin_scalars {heap : Heap} (scalars : List Scalar) :
    ∀ value ∈ scalars.map fun scalar => Value.scalar scalar.type scalar, value.IsBuiltin heap :=
  List.forall_mem_map.mpr fun scalar _ => .scalar scalar

theorem asksNoRegistry_of_builtin {renderer : Renderer} (builtin : renderer.IsBuiltin) :
    renderer.AsksNoRegistry := by
  induction builtin with
  | scalar content => exact .ruled _ _
  | placeholder text => exact .placeholder text
  | sequence _ inductionHypothesis => exact .sequence inductionHypothesis

section

variable {host : Host} {config : Config} {environment : Environment} {words : Words} {format : Text}
  {texts : List Text} {scalars : List Scalar}

theorem runRender_of_malformed (operands : words.operands = format :: texts)
    (coerced : Coercion.arguments (config.command.coerceArguments && !words.hasFlag "raw".toList) texts =
      .ok scalars)
    {malformation : Malformation}
    (malformed : (Format.parse (Mode.ofStrict config.parsing.strict) format).result = .error malformation) :
    runRender host config environment words = Outcome.explained malformation.message := by
  have refused : Workspace.Action.outcome
      (Workspace.openSession format (scalars.map fun scalar => Value.scalar scalar.type scalar)
        (some ⟨config.parsing.strict, config.render.measure.name⟩) none none)
      (Workspace.initial host environment) = .error (.malformedFormat malformation) :=
    Workspace.openSession_of_malformed (Workspace.isBuiltin_initial host environment)
      (isBuiltin_scalars scalars) malformed
  simp only [runRender, operands, coerced, Workspace.Action.run_of_outcome refused]

/-- Without a malformed place the command that renders has something to print, and if it breaks off later,
then not for want of a provider. -/
theorem runRender_of_read (operands : words.operands = format :: texts)
    (coerced : Coercion.arguments (config.command.coerceArguments && !words.hasFlag "raw".toList) texts =
      .ok scalars)
    {items : List Item}
    (read : (Format.parse (Mode.ofStrict config.parsing.strict) format).result = .ok items) :
    ¬ (runRender host config environment words).IsRejection ∧
      ∀ type, (runRender host config environment words).fault ≠ some (.unsupportedType type) := by
  have named : (Workspace.initial host environment).measure? config.render.measure.name =
      some (config.render.measure.measure host.cells) := by
    cases config.render.measure <;> rfl
  have opening : ∃ opened, Workspace.Action.outcome
      (Workspace.openSession format (scalars.map fun scalar => Value.scalar scalar.type scalar)
        (some ⟨config.parsing.strict, config.render.measure.name⟩) none none)
      (Workspace.initial host environment) = .ok opened ∧
        ∀ argument ∈ opened.session.arguments, argument.IsBuiltin :=
    Workspace.openSession_opens_of_read (Workspace.isBuiltin_initial host environment)
      (isBuiltin_scalars scalars) read named
  rcases opening with ⟨opened, opens, builtin⟩
  have asks : opened.session.renderer.AsksNoRegistry :=
    .session _ _ fun argument member => asksNoRegistry_of_builtin (builtin argument member)
  simp only [runRender, operands, coerced, Workspace.Action.run_of_outcome opens]
  split
  · next fault fails =>
      refine ⟨Outcome.not_isRejection_broken _ _ _, fun type same => ?_⟩
      cases same
      exact asks.wantsNoProvider_render _ _ _ fails
  · refine ⟨Outcome.not_isRejection_done _ _, fun type same => ?_⟩
    cases same

theorem runParse_of_malformed (operands : words.operands = [format]) {malformation : Malformation}
    (malformed : (Format.parse (Mode.ofStrict config.parsing.strict) format).result = .error malformation) :
    runParse host config words = Outcome.explained malformation.message := by
  simp only [runParse, operands, malformed]

theorem runParse_of_read (operands : words.operands = [format]) {items : List Item}
    (read : (Format.parse (Mode.ofStrict config.parsing.strict) format).result = .ok items) :
    ¬ (runParse host config words).IsRejection ∧ (runParse host config words).fault = none := by
  simp only [runParse, operands, read]
  split
  · exact ⟨Outcome.not_isRejection_done _ _, rfl⟩
  · exact ⟨Outcome.not_isRejection_done _ _, rfl⟩

end

/-- What both commands reject: a configuration that cannot be loaded, and, where strict parsing is asked for,
a format string that strict parsing does not accept. -/
def Rejects (common : Words) (environment : Environment) (readFile : Text → Option (List UInt8))
    (format : Text) : Prop :=
  (∃ failure, storedConfig common environment readFile = .error failure ∧ failure ≠ .numeralTooLong) ∨
    IsStrict common environment readFile ∧
      ∃ malformation, (Format.parse .strict format).result = .error malformation

/-- The work of a command on a format string: it ends with the malformed place of the format string, if
there is one in the mode of the configuration, and in no other rejection. -/
structure WorksOn (config : Config) (format : Text) (outcome : Outcome) : Prop where
  malformed : ∀ malformation,
    (Format.parse (Mode.ofStrict config.parsing.strict) format).result = .error malformation →
      outcome = Outcome.explained malformation.message
  read : ∀ items, (Format.parse (Mode.ofStrict config.parsing.strict) format).result = .ok items →
    ¬ outcome.IsRejection ∧ ∀ type, outcome.fault ≠ some (.unsupportedType type)

theorem exists_result_parse_recovering (format : Text) :
    ∃ items, (Format.parse .recovering format).result = .ok items := by
  rcases Format.readAll_recovering_covers format 0 (Piece.proper_of_mem_splitAll format) with
    ⟨items, _, read, _⟩
  exact ⟨items, (congrArg Reading.result (Format.parse_eq_readAll _ _)).trans read⟩

theorem WorksOn.isRejection_iff {config : Config} {format : Text} {outcome : Outcome}
    (works : WorksOn config format outcome) :
    outcome.IsRejection ↔ config.parsing.strict = true ∧
      ∃ malformation, (Format.parse .strict format).result = .error malformation := by
  constructor
  · intro rejected
    cases strict : config.parsing.strict with
    | true =>
        cases result : (Format.parse .strict format).result with
        | error malformation => exact ⟨rfl, malformation, rfl⟩
        | ok items => exact absurd rejected (works.read items (by rw [strict]; exact result)).1
    | false =>
        rcases exists_result_parse_recovering format with ⟨items, result⟩
        exact absurd rejected (works.read items (by rw [strict]; exact result)).1
  · rintro ⟨strict, malformation, result⟩
    exact ⟨_, works.malformed malformation (by rw [strict]; exact result)⟩

section

variable {host : Host} {arguments : List Text} {command : Command} {common words : Words}
  {environment : Environment} {readFile : Text → Option (List UInt8)} {format : Text}

theorem rejects_of_failed {failure : LoadFailure}
    (failed : storedConfig common environment readFile = .error failure)
    (readable : storedConfig common environment readFile ≠ .error .numeralTooLong) :
    Rejects common environment readFile format :=
  Or.inl ⟨failure, failed, fun same => readable (same ▸ failed)⟩

theorem rejects_iff_of_found {stored : Config}
    (found : storedConfig common environment readFile = .ok stored) :
    Rejects common environment readFile format ↔ IsStrict common environment readFile ∧
      ∃ malformation, (Format.parse .strict format).result = .error malformation := by
  simp [Rejects, found]

/-- A command that works on a format string rejects what both commands reject. -/
theorem Asks.isRejection_run_iff (asks : Asks arguments command common words)
    (works : ∀ stored, storedConfig common environment readFile = .ok stored →
      WorksOn (withFlags common (Config.override environment stored)) format
        (run host arguments environment readFile))
    (readable : storedConfig common environment readFile ≠ .error .numeralTooLong) :
    (run host arguments environment readFile).IsRejection ↔ Rejects common environment readFile format := by
  cases stored : storedConfig common environment readFile with
  | error failure =>
      rw [asks.run_of_failed stored, isRejection_loadOutcome_iff]
      exact iff_of_true (fun same => readable (same ▸ stored)) (rejects_of_failed stored readable)
  | ok config =>
      rw [rejects_iff_of_found stored, ← strict_withFlags_iff stored]
      exact (works config stored).isRejection_iff

variable (host) in
theorem Asks.worksOn_render (asks : Asks arguments .render common words) {texts : List Text}
    (operands : words.operands = format :: texts)
    (coerces : ∀ config, selectConfig common environment readFile = .ok config →
      ∃ scalars, Coercion.arguments (config.command.coerceArguments && !words.hasFlag "raw".toList) texts =
        .ok scalars)
    (stored : Config) (found : storedConfig common environment readFile = .ok stored) :
    WorksOn (withFlags common (Config.override environment stored)) format
      (run host arguments environment readFile) := by
  rcases coerces _ (selectConfig_of_found found) with ⟨scalars, coerced⟩
  rw [asks.run_of_found found]
  exact ⟨fun _ => runRender_of_malformed operands coerced, fun _ => runRender_of_read operands coerced⟩

variable (host) in
theorem Asks.worksOn_parse (asks : Asks arguments .parse common words) (environment : Environment)
    (readFile : Text → Option (List UInt8)) (operands : words.operands = [format])
    (stored : Config) (found : storedConfig common environment readFile = .ok stored) :
    WorksOn (withFlags common (Config.override environment stored)) format
      (run host arguments environment readFile) := by
  rw [asks.run_of_found found]
  refine ⟨fun _ => runParse_of_malformed operands, fun _ read => ?_⟩
  rcases runParse_of_read operands read with ⟨notRejected, noFault⟩
  exact ⟨notRejected, fun type same => nomatch noFault.symm.trans same⟩

/-- No run of a command that works on a format string ends for want of a provider. -/
theorem Asks.fault_ne_unsupportedType (asks : Asks arguments command common words)
    (works : ∀ stored, storedConfig common environment readFile = .ok stored →
      WorksOn (withFlags common (Config.override environment stored)) format
        (run host arguments environment readFile)) (type : ArgumentType) :
    (run host arguments environment readFile).fault ≠ some (.unsupportedType type) := by
  cases stored : storedConfig common environment readFile with
  | error failure =>
      rw [asks.run_of_failed stored]
      cases failure <;> nofun
  | ok config =>
      have works := works config stored
      cases result : (Format.parse (Mode.ofStrict (withFlags common
          (Config.override environment config)).parsing.strict) format).result with
      | error malformation =>
          rw [works.malformed malformation result]
          nofun
      | ok items => exact (works.read items result).2 type

end

/-- The command that renders and the command that parses reject the same inputs, as long as the arguments
can be coerced and no integer in the configuration is too long: they do so if and only if the configuration
cannot be loaded, or strict parsing is asked for and does not accept the format string.  Then both end with
the same words, and nothing is printed.  An integer that is too long ends both of them without an
explanation.  Neither ever ends for want of a provider.  The arrays of a configuration can be as deep inside
each other as they like, since there is always room to read them. -/
theorem commands_reject_alike (host : Host) {rendering parsing : List Text}
    {common renderWords parseWords : Words} {environment : Environment}
    {readFile : Text → Option (List UInt8)} {format : Text} {texts : List Text}
    (asksRender : Asks rendering .render common renderWords)
    (renderOperands : renderWords.operands = format :: texts)
    (asksParse : Asks parsing .parse common parseWords) (parseOperands : parseWords.operands = [format])
    (coerces : ∀ config, selectConfig common environment readFile = .ok config →
      ∃ scalars, Coercion.arguments
        (config.command.coerceArguments && !renderWords.hasFlag "raw".toList) texts = .ok scalars) :
    let rendered := run host rendering environment readFile
    let parsed := run host parsing environment readFile
    (storedConfig common environment readFile ≠ .error .numeralTooLong →
      (rendered.IsRejection ↔ Rejects common environment readFile format) ∧
      (parsed.IsRejection ↔ Rejects common environment readFile format) ∧
      (Rejects common environment readFile format → rendered = parsed)) ∧
    (storedConfig common environment readFile = .error .numeralTooLong →
      rendered = Outcome.broken [] .numeralTooLong [] ∧ parsed = Outcome.broken [] .numeralTooLong []) ∧
    ∀ type, rendered.fault ≠ some (.unsupportedType type) ∧ parsed.fault ≠ some (.unsupportedType type) := by
  intro rendered parsed
  have renderWorks := asksRender.worksOn_render host renderOperands coerces
  have parseWorks := asksParse.worksOn_parse host environment readFile parseOperands
  refine ⟨fun readable => ⟨asksRender.isRejection_run_iff renderWorks readable,
    asksParse.isRejection_run_iff parseWorks readable, fun rejects => ?_⟩, fun tooLong => ?_, fun type => ?_⟩
  · cases stored : storedConfig common environment readFile with
    | error failure =>
        exact (asksRender.run_of_failed stored).trans (asksParse.run_of_failed stored).symm
    | ok config =>
        rcases (rejects_iff_of_found stored).mp rejects with ⟨strict, malformation, result⟩
        have mode : Mode.ofStrict (withFlags common (Config.override environment config)).parsing.strict =
            .strict := by
          rw [(strict_withFlags_iff stored).mpr strict]
          rfl
        rw [← mode] at result
        exact ((renderWorks config stored).malformed _ result).trans
          ((parseWorks config stored).malformed _ result).symm
  · exact ⟨asksRender.run_of_failed tooLong, asksParse.run_of_failed tooLong⟩
  · exact ⟨asksRender.fault_ne_unsupportedType renderWorks type,
      asksParse.fault_ne_unsupportedType parseWorks type⟩

/-- A file that turns strict parsing on. -/
def strictDocument : Text := "[parsing]\nstrict = true".toList

/-- The words of a command line that renders a brace without a partner and an argument. -/
def renderBrace : List Text :=
  ["--config".toList, "f".toList, "render".toList, "-n".toList, "\x7d".toList, "17".toList]

/-- The words of a command line that parses that brace. -/
def parseBrace : List Text :=
  ["--config".toList, "f".toList, "parse".toList, "--json".toList, "\x7d".toList]

theorem commands_reject_alike_brace :
    let common : Words := ⟨[], [("config".toList, "f".toList)], []⟩
    let readFile : Text → Option (List UInt8) := fun _ => some (Config.bytesOf strictDocument)
    Asks renderBrace .render common ⟨["no_newline".toList], [], ["\x7d".toList, "17".toList]⟩ ∧
      Asks parseBrace .parse common ⟨["json".toList], [], ["\x7d".toList]⟩ ∧
      storedConfig common [] readFile = .ok ⟨⟨true⟩, ⟨.chars⟩, ⟨true, false⟩⟩ ∧
      (run .plain renderBrace [] readFile).IsRejection ∧
        run .plain renderBrace [] readFile = run .plain parseBrace [] readFile := by
  intro common readFile
  have asksRender : Asks renderBrace .render common ⟨["no_newline".toList], [], ["\x7d".toList, "17".toList]⟩ :=
    ⟨_, _, by cbv, by cbv⟩
  have asksParse : Asks parseBrace .parse common ⟨["json".toList], [], ["\x7d".toList]⟩ :=
    ⟨_, _, by cbv, by cbv⟩
  have stored : storedConfig common [] readFile = .ok ⟨⟨true⟩, ⟨.chars⟩, ⟨true, false⟩⟩ := by
    change Config.load (some (Config.bytesOf strictDocument)) [] = _
    rw [Config.load_bytesOf rfl]
    cbv
  have coerces : ∀ config, selectConfig common [] readFile = .ok config →
      ∃ scalars, Coercion.arguments (config.command.coerceArguments &&
        !Words.hasFlag ⟨["no_newline".toList], [], ["\x7d".toList, "17".toList]⟩ "raw".toList)
          ["17".toList] = .ok scalars := by
    intro config selected
    cases (selectConfig_of_found stored).symm.trans selected
    exact ⟨[.integer 17], by cbv⟩
  have rejects : Rejects common [] readFile "\x7d".toList :=
    (rejects_iff_of_found stored).mpr ⟨Or.inr (Or.inl ⟨_, stored, rfl⟩), _, by cbv⟩
  rcases commands_reject_alike .plain asksRender rfl asksParse rfl coerces with ⟨readable, _⟩
  rcases readable (by simp [stored]) with ⟨rendered, _, same⟩
  exact ⟨asksRender, asksParse, stored, rendered.mpr rejects, same rejects⟩

end CommandLine

/-! ## Documents with an integer that is too long -/

open Workspace (longNumeral mem_longNumeral)

namespace Toml

theorem unifyLineEnds_eq_self {text : Text} (noReturn : '\r' ∉ text) : unifyLineEnds text = text := by
  induction text using unifyLineEnds.induct with
  | case1 rest inductionHypothesis => simp at noReturn
  | case2 c rest _ inductionHypothesis =>
      rw [unifyLineEnds]
      · rw [inductionHypothesis fun member => noReturn (List.mem_cons_of_mem c member)]
      · assumption
  | case3 => rfl

theorem takeDigits_of_all {isDigit : Char → Bool} {text : Text} (digits : ∀ c ∈ text, isDigit c = true) :
    takeDigits isDigit text = (text, []) := by
  induction text with
  | nil => rfl
  | cons c rest inductionHypothesis =>
      rw [List.forall_mem_cons] at digits
      rw [takeDigits.eq_def]
      simp only [digits.1, inductionHypothesis digits.2, if_true]

theorem readDecimal?_longNumeral : readDecimal? longNumeral = some (.error .numeralTooLong) := by
  have digits : takeDigits Char.isDigit longNumeral = (longNumeral, []) :=
    takeDigits_of_all fun c member => by rw [mem_longNumeral member]; rfl
  have whole : takeWhole? longNumeral = some (longNumeral, []) := congrArg some digits
  have tooLong : Numeral.read? longNumeral = none := if_neg (by simp [longNumeral])
  have unsigned : Literal.takeSign longNumeral = (false, longNumeral) := rfl
  simp only [readDecimal?, unsigned, whole, Option.map_some, tooLong]
  rfl

/-- Five nines are neither the beginning of a moment nor a mark, so that a decimal number follows. -/
theorem readValue_nines (rest : Text) {failure : Failure}
    (failed : readDecimal? ('9' :: '9' :: '9' :: '9' :: '9' :: rest) = some (.error failure)) :
    readValue ('9' :: '9' :: '9' :: '9' :: '9' :: rest) = .error failure := by
  have moment : readMoment? ('9' :: '9' :: '9' :: '9' :: '9' :: rest) = none := rfl
  have marked : readMarked? ('9' :: '9' :: '9' :: '9' :: '9' :: rest) = none := rfl
  have otherwise : ∀ c front, c ≠ '9' →
      Text.startsWith (c :: front) ('9' :: '9' :: '9' :: '9' :: '9' :: rest) = false := by
    intro c front other
    simp [Text.startsWith, List.isPrefixOf, other]
  simp [readValue, readValueWithin, tripled, basicQuote, literalQuote, otherwise, moment, marked, failed]

/-- A document that begins with a key and a value that cannot be read. -/
theorem read_of_readValue_eq_error {rest : Text} (noReturn : '\r' ∉ rest) {failure : Failure}
    (failed : readValue ('9' :: rest) = .error failure) :
    read ('a' :: '=' :: '9' :: rest) = .error failure := by
  have lineEnds : unifyLineEnds ('a' :: '=' :: '9' :: rest) = 'a' :: '=' :: '9' :: rest := by
    apply unifyLineEnds_eq_self
    simpa using noReturn
  have path : readPath ('a' :: '=' :: '9' :: rest) = .ok ([['a']], '=' :: '9' :: rest) := rfl
  have afterMark : skipBlanks ('9' :: rest) = '9' :: rest := rfl
  have key : beginsKey 'a' = true := rfl
  have statement : Document.empty.readStatement ('a' :: '=' :: '9' :: rest) = .error failure := by
    simp [Document.readStatement, key, path, bind, Except.bind, afterMark, failed]
  have afterBlanks : skipBlanks ('a' :: '=' :: '9' :: rest) = 'a' :: '=' :: '9' :: rest := rfl
  simp [read, lineEnds, Document.readLinesWithin, afterBlanks, statement, bind, Except.bind, Except.map]

end Toml

/-- A document with an integer that is too long. -/
def longDocument : Text := 'a' :: '=' :: longNumeral

theorem read_longDocument : Toml.read longDocument = .error .numeralTooLong := by
  apply Toml.read_of_readValue_eq_error
  · intro member
    cases mem_longNumeral (List.mem_cons_of_mem _ member)
  · exact Toml.readValue_nines _ Toml.readDecimal?_longNumeral

namespace Config

theorem load_longDocument : load (some (bytesOf longDocument)) [] = .error .numeralTooLong := by
  rw [load_bytesOf rfl, ofText, read_longDocument]
  rfl

end Config

namespace CommandLine

/-- An integer that is too long keeps both commands from rejecting a format string, even where strict parsing
is asked for by a flag. -/
theorem not_commands_reject_alike_longDocument :
    ¬ ∀ (host : Host) (rendering parsing : List Text) (common renderWords parseWords : Words)
      (environment : Environment) (readFile : Text → Option (List UInt8)) (format : Text) (texts : List Text),
      Asks rendering .render common renderWords → renderWords.operands = format :: texts →
      Asks parsing .parse common parseWords → parseWords.operands = [format] →
      (∀ config, selectConfig common environment readFile = .ok config →
        ∃ scalars, Coercion.arguments
          (config.command.coerceArguments && !renderWords.hasFlag "raw".toList) texts = .ok scalars) →
      ((run host rendering environment readFile).IsRejection ↔ Rejects common environment readFile format) ∧
        ((run host parsing environment readFile).IsRejection ↔ Rejects common environment readFile format) := by
  intro alike
  let common : Words := ⟨["strict".toList], [("config".toList, "f".toList)], []⟩
  let readFile : Text → Option (List UInt8) := fun _ => some (Config.bytesOf longDocument)
  have asksRender : Asks ("--strict".toList :: renderBrace) .render common
      ⟨["no_newline".toList], [], ["\x7d".toList, "17".toList]⟩ := ⟨_, _, by cbv, by cbv⟩
  have asksParse : Asks ("--strict".toList :: parseBrace) .parse common
      ⟨["json".toList], [], ["\x7d".toList]⟩ := ⟨_, _, by cbv, by cbv⟩
  have tooLong : storedConfig common [] readFile = .error .numeralTooLong := Config.load_longDocument
  have rejects : Rejects common [] readFile "\x7d".toList := Or.inr ⟨Or.inl rfl, _, by cbv⟩
  have coerces : ∀ config, selectConfig common [] readFile = .ok config →
      ∃ scalars, Coercion.arguments (config.command.coerceArguments &&
        !Words.hasFlag ⟨["no_newline".toList], [], ["\x7d".toList, "17".toList]⟩ "raw".toList)
          ["17".toList] = .ok scalars := by
    intro config selected
    cases (selectConfig_of_failed tooLong).symm.trans selected
  have rejected :=
    (alike .plain _ _ common _ _ [] readFile _ _ asksRender rfl asksParse rfl coerces).1.mpr rejects
  rw [asksRender.run_of_failed tooLong] at rejected
  exact Outcome.not_isRejection_broken _ _ _ rejected

end CommandLine
end FieldText
