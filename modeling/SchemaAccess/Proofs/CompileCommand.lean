import SchemaAccess.Proofs.ClosedTemplate
import SchemaAccess.Proofs.FileWrites
import SchemaAccess.Proofs.JsonRoundTrip
import SchemaAccess.Proofs.PathText
import SchemaAccess.Proofs.ReportLine

namespace SchemaAccess

theorem Declares.textual {apiId : String} {t : Template} {policies : List Policy.Document}
    (h : Declares apiId t policies) : t.toValue.Textual := by
  have hparameters : (Value.object t.parameters).Textual := by
    rw [h.parameters]
    split <;> split <;> simp [Entries.keys]
  have hresources : (Value.object t.resources).Textual := by
    rw [Value.textual_object_iff, h.resources, Entries.keys, List.map_map]
    exact ⟨h.names_nodup, List.forall_mem_map.2 fun doc _ => by simp [Entries.keys]⟩
  refine .object (by simp [Entries.keys]) (List.forall_mem_cons.2 ⟨hparameters, ?_⟩)
  exact List.forall_mem_singleton.2 hresources

theorem declares_of_compile {schema : String} {c : Access.Config} {cap : Int} {out : Pass.Output}
    (h : compile schema c cap = .ok out) : Declares Policy.defaultApiId out.template out.policies := by
  obtain ⟨d, -, -, -, rfl⟩ := (compile_eq_ok_iff schema c cap out).1 h
  exact declares_templateOf _ rfl (numberedFor_documentsOf _ _ _) (numberedFor_documentsOf _ _ _)
    (Policy.nodup_names_documentsOf_append _ _ _)

namespace CommandLine

def fileNames : List String := ["schema.graphql", "stack.json"]

/-- A text as it is read from a file. -/
def asRead (text : String) : String := String.ofList (Text.unifyLineEnds text.toList)

theorem asRead_of_notMem {text : String} (h : '\r' ∉ text.toList) : asRead text = text := by
  have hsame : ∀ cs : List Char, '\r' ∉ cs → Text.unifyLineEnds cs = cs := by
    intro cs hcs
    induction cs with
    | nil => rfl
    | cons c cs ih =>
      have hc : c ≠ '\r' := fun hc => hcs (hc ▸ List.mem_cons_self)
      rw [Text.unifyLineEnds, ih (List.not_mem_of_not_mem_cons hcs)]
      · exact fun _ hreturn => absurd hreturn hc
      · exact hc
  rw [asRead, hsame _ h, String.ofList_toList]

theorem LogLine.display_eq_ok_iff (verbosity : Nat) (line : LogLine) : line.display verbosity = .ok () ↔
    (line.level ≤ verbosity → ∃ text, Text.Markup.unstyled line.message = .ok text) := by
  unfold LogLine.display
  by_cases hshown : line.level ≤ verbosity
  · rw [if_pos hshown]
    cases hread : Text.Markup.unstyled line.message with
    | ok text => exact ⟨fun _ _ => ⟨text, rfl⟩, fun _ => rfl⟩
    | error fault => exact ⟨nofun, fun h => absurd (h hshown) nofun⟩
  · rw [if_neg hshown]
    exact ⟨fun _ h => absurd h hshown, fun _ => rfl⟩

namespace Outcome

/-- The call goes wrong before anything is delivered. -/
def Refuses (o : Outcome) : Prop := o.exitCode = 1 ∧ o.delivery = none

theorem forM_display_eq_ok_iff (verbosity : Nat) (lines : List LogLine) :
    lines.forM (·.display verbosity) = .ok () ↔ ∀ line ∈ lines, line.display verbosity = .ok () := by
  induction lines with
  | nil => exact ⟨fun _ => List.forall_mem_nil _, fun _ => rfl⟩
  | cons line lines ih =>
    change (line.display verbosity >>= fun _ => lines.forM _) = .ok () ↔ _
    rw [List.forall_mem_cons, ← ih]
    cases line.display verbosity with
    | ok => exact (and_iff_right rfl).symm
    | error fault => exact ⟨nofun, fun h => absurd h.1 nofun⟩

theorem after_eq {verbosity : Nat} {lines : List LogLine} (h : ∀ line ∈ lines, line.display verbosity = .ok ())
    (delivery : Option Delivery) (rest : Outcome) : after verbosity lines delivery rest = rest := by
  rw [after, (forM_display_eq_ok_iff verbosity lines).2 h]

theorem of_exitCode_after_ne_one {verbosity : Nat} {lines : List LogLine} {delivery : Option Delivery}
    {rest : Outcome} (h : (after verbosity lines delivery rest).exitCode ≠ 1) :
    (∀ line ∈ lines, line.display verbosity = .ok ()) ∧ rest.exitCode ≠ 1 := by
  rw [← forM_display_eq_ok_iff]
  unfold after at h
  cases hlines : lines.forM (·.display verbosity) with
  | ok =>
    rw [hlines] at h
    exact ⟨rfl, h⟩
  | error fault =>
    rw [hlines] at h
    exact absurd rfl h

theorem of_exitCode_logging_ne_one {verbosity : Nat} {logFile : String} {rest : Outcome}
    (h : (logging verbosity logFile rest).exitCode ≠ 1) :
    (1 ≤ verbosity → ∃ line, Text.Markup.unstyled (logNotice logFile) = .ok line) ∧ rest.exitCode ≠ 1 := by
  unfold logging at h
  by_cases hquiet : verbosity = 0
  · rw [if_pos hquiet] at h
    exact ⟨fun hverbose => by omega, h⟩
  · rw [if_neg hquiet] at h
    cases hnotice : Text.Markup.unstyled (logNotice logFile) with
    | ok line =>
      rw [hnotice] at h
      exact ⟨fun _ => ⟨line, rfl⟩, h⟩
    | error fault =>
      rw [hnotice] at h
      exact absurd rfl h

theorem refuses_styled (line : String) : (styled 1 none line "").Refuses := by
  unfold styled
  cases Text.Markup.unstyled line <;> exact ⟨rfl, rfl⟩

theorem Refuses.after {rest : Outcome} (h : rest.Refuses) (verbosity : Nat) (lines : List LogLine) :
    (Outcome.after verbosity lines none rest).Refuses := by
  unfold Outcome.after
  split
  · exact h
  · exact ⟨rfl, rfl⟩

theorem Refuses.logging {rest : Outcome} (h : rest.Refuses) (verbosity : Nat) (logFile : String) :
    (Outcome.logging verbosity logFile rest).Refuses := by
  unfold Outcome.logging
  split
  · exact h
  · split
    · exact h
    · exact ⟨rfl, rfl⟩

end Outcome

/-- A call to compile a schema, in a tree of files. What the program and its command make of the arguments
asks for no help. Schema and configuration are files, and the directory for the output can be made, without
directories in it where the files are to be. -/
structure CompileCall (t : FileTree) where
  args : List String
  program : Given
  readsProgram : readOptions Level.program.options false args = .ok program
  noProgramHelp : program.has helpOption.long = false
  rest : List String
  command : ∃ name ∈ commands, program.others = name :: rest
  given : Given
  readsGiven : readOptions Level.compile.options true rest = .ok given
  noHelp : given.has helpOption.long = false
  schema : String
  others : given.others = [schema]
  schemaText : String
  schemaFile : Arguments.nodeAt t.look schema = .ok (.file schemaText)
  noBracket : '[' ∉ schema.toList
  config : String
  givesConfig : given.value? Parameter.config.name = some config
  configText : String
  configFile : Arguments.nodeAt t.look config = .ok (.file configText)
  cap : Int
  givesCap : Arguments.capOf given = .ok cap
  outDirectory : String
  givesOut : (given.value? Parameter.outDirectory.name).getD Arguments.defaultOutDirectory = outDirectory
  noNull : '\x00' ∉ outDirectory.toList
  made : FileTree
  makes : t.makeDirectory (Path.ofText outDirectory) = .ok made
  free : ∀ name ∈ fileNames, made.Free ((Path.ofText outDirectory).child name)

namespace CompileCall

variable {t : FileTree} (call : CompileCall t)

/-- The configuration is one in JSON, and under it the schema is compiled to an output. -/
def Accepts (o : Pass.Output) : Prop :=
  ∃ v c, Json.read (asRead call.configText) = .ok v ∧ Access.Config.ofValue v = .ok c ∧
    compile (asRead call.schemaText) c call.cap = .ok o

abbrev directory : Path := Path.ofText call.outDirectory

abbrev verbosity : Nat := call.program.count "--verbose"

/-- What a verbose call shows of its log can be shown: of the style tags in it, if there are any, none is at fault. -/
structure ShowsLog (logFile : String) : Prop where
  notice : 1 ≤ call.verbosity →
    ∃ line, Text.Markup.unstyled ("[italic dim]Logs saved to: " ++ logFile ++ "[/]") = .ok line
  bound : 2 ≤ call.verbosity → ∀ c, readConfig (asRead call.configText) = .ok c →
    ∀ b ∈ boundFunctions (asRead call.schemaText) c call.cap, ∃ line, Text.Markup.unstyled
      ("Bound '" ++ (b.typeName ++ "." ++ b.fieldName) ++ "' to function '" ++ b.functionName ++ "'") = .ok line
  written : 1 ≤ call.verbosity → ∃ line, Text.Markup.unstyled
    ("Wrote transformed schema and stack to " ++ call.directory.shown) = .ok line

def arguments : Arguments := ⟨call.schema, call.config, call.outDirectory, call.cap⟩

theorem existingFile_eq_ok {look : String → FileNode} {path text : String}
    (h : Arguments.nodeAt look path = .ok (.file text)) (p : Parameter) :
    Arguments.existingFile look p path = .ok path := by
  rw [Arguments.existingFile, h]
  rfl

theorem textAt_eq {look : String → FileNode} {path text : String}
    (h : Arguments.nodeAt look path = .ok (.file text)) : textAt look path = asRead text := by
  unfold Arguments.nodeAt at h
  split at h
  · contradiction
  · rw [textAt, Except.ok.inj h]
    rfl

theorem outDirectoryOf_eq_ok (hroot : t.node (.inside []) = .directory) :
    Arguments.outDirectoryOf t.look call.given = .ok call.outDirectory := by
  -- of a path to a directory only a file at its end would be refused
  have hfile := FileTree.look_ne_file_of_makeDirectory hroot call.makes
  have hnode : Arguments.nodeAt t.look call.outDirectory = .ok (t.look call.outDirectory) := by
    rw [Arguments.nodeAt, if_neg (by simpa using call.noNull)]
    rfl
  unfold Arguments.outDirectoryOf
  rw [call.givesOut]
  dsimp only
  rw [hnode]
  cases hlook : t.look call.outDirectory with
  | file text => exact absurd hlook (hfile text)
  | _ => rfl

/-- All arguments are accepted, in whatever order they are checked. -/
theorem ofGiven_eq_ok (hroot : t.node (.inside []) = .directory) :
    Arguments.ofGiven t.look call.given = .ok call.arguments := by
  have hschema : Arguments.schemaOf t.look call.given = .ok call.schema := by
    rw [Arguments.schemaOf, call.others]
    exact existingFile_eq_ok call.schemaFile _
  have hconfig : Arguments.configOf t.look call.given = .ok call.config := by
    rw [Arguments.configOf, call.givesConfig]
    exact existingFile_eq_ok call.configFile _
  have hout := call.outDirectoryOf_eq_ok hroot
  have hcheck : ∀ p, Arguments.check t.look call.given p = .ok () := by
    intro p
    cases p with
    | schema => rw [Arguments.check, hschema]; rfl
    | config => rw [Arguments.check, hconfig]; rfl
    | outDirectory => rw [Arguments.check, hout]; rfl
    | cap => rw [Arguments.check, call.givesCap]; rfl
  -- the order of the checks is that of the call, and does not matter here
  have hall : ∀ ps : List Parameter, ps.forM (Arguments.check t.look call.given) = .ok () := by
    intro ps
    induction ps with
    | nil => rfl
    | cons p ps ih =>
      change (Arguments.check t.look call.given p >>= fun _ => ps.forM _) = _
      rw [hcheck]
      exact ih
  have hcount : Arguments.checkCount call.given = .ok () := by
    rw [Arguments.checkCount, call.others]
    rfl
  rw [Arguments.ofGiven, hall, hcount, hschema, hconfig, hout, call.givesCap]
  rfl

theorem run_eq (hroot : t.node (.inside []) = .directory) (logFile : String) :
    run t.look call.args logFile =
      .logging call.verbosity logFile (compileFiles t.look call.verbosity call.arguments) := by
  obtain ⟨name, hname, hothers⟩ := call.command
  have hargs : call.args.isEmpty = false := by
    cases hargs : call.args with
    | nil =>
      have hread := call.readsProgram
      rw [hargs] at hread
      rw [← Except.ok.inj hread] at hothers
      contradiction
    | cons => rfl
  unfold run
  dsimp only
  rw [hargs, call.readsProgram]
  dsimp only
  rw [call.noProgramHelp, hothers]
  dsimp only
  rw [if_pos hname]
  unfold runCompile
  dsimp only
  rw [call.readsGiven]
  dsimp only
  rw [call.noHelp, call.ofGiven_eq_ok hroot]
  rfl

theorem compileFiles_eq : compileFiles t.look call.verbosity call.arguments =
    match readConfig (asRead call.configText) with
    | .error message =>
      .plain 1 true s!"Error: Invalid auth config {(Path.ofText call.config).shown}: {message}\n"
    | .ok c =>
      .after call.verbosity ((boundFunctions (asRead call.schemaText) c call.cap).map .bound) none <|
        match compile (asRead call.schemaText) c call.cap with
        | .error e =>
          if e.isRejection then
            .after call.verbosity [.rejected (Path.ofText call.schema)] none
              (.styled 1 none s!"[bold red]✗ {(Path.ofText call.schema).shown}[/bold red]: {e.message}" "")
          else .crashed none (.failure e)
        | .ok o =>
          .after call.verbosity [.written call.directory] (some (deliveryOf call.directory o))
            (.styled 0 (some (deliveryOf call.directory o))
              s!"[bold green]✓[/bold green] Compiled {(Path.ofText call.schema).shown}"
              (policyReport o.policies)) := by
  rw [← textAt_eq call.configFile, ← textAt_eq call.schemaFile]
  rfl

theorem readConfig_eq_ok_iff (text : String) (c : Access.Config) :
    readConfig text = .ok c ↔ ∃ v, Json.read text = .ok v ∧ Access.Config.ofValue v = .ok c := by
  unfold readConfig
  cases Json.read text with
  | error fault => simp
  | ok v => cases hc : Access.Config.ofValue v <;> simp [Except.mapError, hc]

theorem showsLog_of_quiet (h : call.verbosity = 0) (logFile : String) : call.ShowsLog logFile where
  notice hshown := by omega
  bound hshown := by omega
  written hshown := by omega

theorem accepts_iff (o : Pass.Output) : call.Accepts o ↔ ∃ c,
    readConfig (asRead call.configText) = .ok c ∧ compile (asRead call.schemaText) c call.cap = .ok o := by
  simp only [Accepts, readConfig_eq_ok_iff]
  constructor
  · rintro ⟨v, c, hv, hc, ho⟩
    exact ⟨c, ⟨v, hv, hc⟩, ho⟩
  · rintro ⟨c, ⟨v, hv, hc⟩, ho⟩
    exact ⟨v, c, hv, hc, ho⟩

/-- What is accepted is told of and delivered. -/
theorem run_of_accepts (hroot : t.node (.inside []) = .directory) {logFile : String}
    (hlog : call.ShowsLog logFile) {o : Pass.Output} (h : call.Accepts o) : ∃ text,
      run t.look call.args logFile = ⟨0, text, true, some (deliveryOf call.directory o), none⟩ := by
  obtain ⟨c, hc, ho⟩ := (call.accepts_iff o).1 h
  have hbracket : '[' ∉ (" Compiled " ++ (Path.ofText call.schema).shown).toList := by
    rw [String.toList_append, List.mem_append, not_or]
    exact ⟨by decide, Path.bracket_notMem_shown call.noBracket⟩
  obtain ⟨line, hline⟩ := Text.Markup.exists_unstyled_greenMark hbracket
  -- the line as it is put together, its mark apart from the path
  have hsame : Text.Markup.greenMark ++ (" Compiled " ++ (Path.ofText call.schema).shown) =
      s!"[bold green]✓[/bold green] Compiled {(Path.ofText call.schema).shown}" := by
    rw [← String.append_assoc]
    rfl
  rw [hsame] at hline
  have hbound : ∀ shown ∈ (boundFunctions (asRead call.schemaText) c call.cap).map LogLine.bound,
      shown.display call.verbosity = .ok () := by
    rw [List.forall_mem_map]
    exact fun b hb => (LogLine.display_eq_ok_iff _ _).2 fun hlevel => hlog.bound hlevel c hc b hb
  have hwritten : ∀ shown ∈ [LogLine.written call.directory], shown.display call.verbosity = .ok () := by
    rw [List.forall_mem_singleton]
    exact (LogLine.display_eq_ok_iff _ _).2 hlog.written
  rw [run_eq call hroot, compileFiles_eq, hc]
  dsimp only
  rw [Outcome.after_eq hbound, ho]
  dsimp only
  rw [Outcome.after_eq hwritten, Outcome.styled, hline]
  unfold Outcome.logging
  split
  next => exact ⟨_, rfl⟩
  next hverbose =>
    obtain ⟨notice, hnotice⟩ := hlog.notice (Nat.pos_of_ne_zero hverbose)
    have hread : Text.Markup.unstyled (logNotice logFile) = .ok notice := hnotice
    rw [hread]
    exact ⟨_, rfl⟩

theorem exitCode_runIn_eq_one {args : List String} {logFile : String} (h : (run t.look args logFile).exitCode = 1) :
    (runIn t args logFile).1.exitCode = 1 := by
  unfold runIn
  dsimp only
  split
  · exact h
  · split
    · exact h
    · rfl

theorem exitCode_runIn_of_not_showsLog (hroot : t.node (.inside []) = .directory) {logFile : String}
    (hlog : ¬call.ShowsLog logFile) {o : Pass.Output} (h : call.Accepts o) :
    (runIn t call.args logFile).1.exitCode = 1 := by
  obtain ⟨c, hc, ho⟩ := (call.accepts_iff o).1 h
  apply exitCode_runIn_eq_one
  by_contra hexit
  rw [run_eq call hroot, compileFiles_eq, hc] at hexit
  obtain ⟨hnotice, hexit⟩ := Outcome.of_exitCode_logging_ne_one hexit
  obtain ⟨hbound, hexit⟩ := Outcome.of_exitCode_after_ne_one hexit
  rw [ho] at hexit
  obtain ⟨hwritten, -⟩ := Outcome.of_exitCode_after_ne_one hexit
  rw [List.forall_mem_map] at hbound
  apply hlog
  constructor
  case notice => exact hnotice
  case written => exact (LogLine.display_eq_ok_iff call.verbosity _).1 (hwritten _ List.mem_cons_self)
  case bound =>
    intro hverbose c' hc' b hb
    obtain rfl := Except.ok.inj (hc.symm.trans hc')
    exact (LogLine.display_eq_ok_iff call.verbosity (.bound b)).1 (hbound b hb) hverbose

theorem refuses_of_not_accepts (hroot : t.node (.inside []) = .directory) (logFile : String)
    (h : ¬∃ o, call.Accepts o) : (run t.look call.args logFile).Refuses := by
  rw [run_eq call hroot, compileFiles_eq]
  apply Outcome.Refuses.logging
  cases hc : readConfig (asRead call.configText) with
  | error message => exact ⟨rfl, rfl⟩
  | ok c =>
    apply Outcome.Refuses.after
    cases ho : compile (asRead call.schemaText) c call.cap with
    | ok o => exact absurd ⟨o, (call.accepts_iff o).2 ⟨c, hc, ho⟩⟩ h
    | error e =>
      dsimp only
      split
      · exact (Outcome.refuses_styled _).after _ _
      · exact ⟨rfl, rfl⟩

/-- The paths of both files are not too long to be written to. -/
def Fits : Prop := ∀ name ∈ fileNames, (call.directory.child name).shown.utf8ByteSize ≤ FileTree.pathLimit

/-- The output is delivered: the directory is made along with those on the way to it, and both files are put
there. One holds the schema, and what JSON reads from the other is the template. -/
structure Delivered (o : Pass.Output) (outcome : Outcome) (after : FileTree) : Prop where
  exitCode : outcome.exitCode = 0
  crash : outcome.crash = none
  grows : FileTree.Grows call.directory.root call.directory.parts t call.made
  files : ∃ stack between, Json.read stack = .ok o.template.toValue ∧
    outcome.delivery = some ⟨call.directory, [("schema.graphql", o.schema ++ "\n"), ("stack.json", stack)]⟩ ∧
    FileTree.Puts (call.directory.child "schema.graphql") (o.schema ++ "\n") call.made between ∧
    FileTree.Puts (call.directory.child "stack.json") stack between after

theorem delivered_of_accepts (hroot : t.node (.inside []) = .directory) {logFile : String}
    (hlog : call.ShowsLog logFile) (hfits : call.Fits) {o : Pass.Output} (h : call.Accepts o) :
    call.Delivered o (runIn t call.args logFile).1 (runIn t call.args logFile).2 := by
  obtain ⟨text, houtcome⟩ := call.run_of_accepts hroot hlog h
  obtain ⟨v, c, -, -, ho⟩ := h
  obtain ⟨hgrows, hreaches⟩ := FileTree.grows_of_makeDirectory hroot call.makes
  -- the first file does not stand in the way of the second
  obtain ⟨between, after, hschema, hstack, hputs, hputs'⟩ := FileTree.exists_puts_puts hreaches
    (by decide) (by decide) (hfits "schema.graphql" (by decide)) (hfits "stack.json" (by decide))
    (call.free "schema.graphql" (by decide)) (call.free "stack.json" (by decide))
    (o.schema ++ "\n") (Json.indented 0 o.template.toValue ++ "\n")
  have hcarry : (deliveryOf call.directory o).carryOut t = (after, none) := by
    rw [Delivery.carryOut, deliveryOf, call.makes]
    dsimp only
    rw [writeAll, hschema]
    dsimp only
    rw [writeAll, hstack]
    rfl
  have hrun : runIn t call.args logFile =
      (⟨0, text, true, some (deliveryOf call.directory o), none⟩, after) := by
    unfold runIn
    rw [houtcome]
    dsimp only
    rw [hcarry]
  rw [hrun]
  exact ⟨rfl, rfl, hgrows, _, between, Json.read_indented (declares_of_compile ho).textual, rfl, hputs, hputs'⟩

theorem refused_of_not_accepts (hroot : t.node (.inside []) = .directory) (logFile : String)
    (h : ¬∃ o, call.Accepts o) : (runIn t call.args logFile).1.exitCode = 1 ∧
      (runIn t call.args logFile).1.delivery = none ∧ (runIn t call.args logFile).2 = t := by
  obtain ⟨hexit, hdelivery⟩ := call.refuses_of_not_accepts hroot logFile h
  have hrun : runIn t call.args logFile = (run t.look call.args logFile, t) := by
    unfold runIn
    dsimp only
    rw [hdelivery]
  rw [hrun]
  exact ⟨hexit, hdelivery, rfl⟩

theorem long_of_not_fits (h : ¬call.Fits) :
    FileTree.pathLimit < (call.directory.child "schema.graphql").shown.utf8ByteSize := by
  obtain ⟨size, hsize⟩ := call.directory.exists_utf8ByteSize_child
  have hlongest : ∀ name ∈ fileNames, name.utf8ByteSize ≤ "schema.graphql".utf8ByteSize := by decide
  simp only [Fits, not_forall, Nat.not_le] at h
  obtain ⟨name, hname, hlong⟩ := h
  have hle := hlongest name hname
  rw [hsize] at hlong ⊢
  omega

theorem undelivered_of_not_fits (hroot : t.node (.inside []) = .directory) {logFile : String}
    (hlog : call.ShowsLog logFile) (hfits : ¬call.Fits) {o : Pass.Output} (h : call.Accepts o) :
    (runIn t call.args logFile).1.exitCode = 1 ∧ (runIn t call.args logFile).2 = call.made := by
  obtain ⟨text, houtcome⟩ := call.run_of_accepts hroot hlog h
  have hcarry : (deliveryOf call.directory o).carryOut t =
      (call.made, some ⟨.nameTooLong, call.directory.child "schema.graphql"⟩) := by
    rw [Delivery.carryOut, deliveryOf, call.makes]
    dsimp only
    rw [writeAll, FileTree.writeFile_of_long (call.long_of_not_fits hfits)]
  unfold runIn
  rw [houtcome]
  dsimp only
  rw [hcarry]
  exact ⟨rfl, rfl⟩

end CompileCall

section Small

open FileTree

def smallSchema : String := "type Query \x7b a: Int @function(name: \"f\") \x7d"

def smallConfig : String :=
  "\x7b\x22defaultAuthentication\x22: \x7b\x22authenticationType\x22: \x22AMAZON_COGNITO_USER_POOLS\x22\x7d\x7d"

def smallConfigured : Access.Config := ⟨.bare .userPools, [], List.nodup_singleton _⟩

theorem readConfig_smallConfig : readConfig (asRead smallConfig) = .ok smallConfigured := by
  have hwritten : smallConfig = Json.compact (.object [("defaultAuthentication",
      .object [("authenticationType", .string "AMAZON_COGNITO_USER_POOLS")])]) := by decide +kernel
  rw [asRead_of_notMem (by simp [smallConfig]), hwritten]
  exact (CompileCall.readConfig_eq_ok_iff _ _).2 ⟨_, Json.read_compact (by simp [Entries.keys]), rfl⟩

theorem asRead_smallSchema : asRead smallSchema = smallSchema := asRead_of_notMem (by simp [smallSchema])

theorem exists_compiled_small : ∃ o,
    compile (asRead smallSchema) smallConfigured Policy.defaultCap = .ok o := by
  rw [asRead_smallSchema]
  exact exists_ok_of_isOk (by decide +kernel)

def smallFiles : List (List String × String) := [(["s.graphql"], smallSchema), (["a.json"], smallConfig)]

/-- A tree with a small schema and its configuration, and a directory for the output that can be made. -/
structure HoldsSmall (t made : FileTree) (outDirectory : String) : Prop where
  schemaFile : t.look "s.graphql" = .file smallSchema
  configFile : t.look "a.json" = .file smallConfig
  noNull : '\x00' ∉ outDirectory.toList
  makes : t.makeDirectory (Path.ofText outDirectory) = .ok made
  free : ∀ name ∈ fileNames, made.Free ((Path.ofText outDirectory).child name)

def smallArgs (outDirectory : String) : List String :=
  ["compile", "s.graphql", "--auth-config", "a.json", "--out-dir", outDirectory]

def smallCall {t made : FileTree} {outDirectory : String} (h : HoldsSmall t made outDirectory) :
    CompileCall t where
  args := smallArgs outDirectory
  program := ⟨[], smallArgs outDirectory⟩
  readsProgram := rfl
  noProgramHelp := rfl
  rest := (smallArgs outDirectory).tail
  command := ⟨"compile", by decide, rfl⟩
  given := ⟨[("--auth-config", some "a.json"), ("--out-dir", some outDirectory)], ["s.graphql"]⟩
  readsGiven := rfl
  noHelp := rfl
  schema := "s.graphql"
  others := rfl
  schemaText := smallSchema
  schemaFile := congrArg Except.ok h.schemaFile
  noBracket := by decide
  config := "a.json"
  givesConfig := rfl
  configText := smallConfig
  configFile := congrArg Except.ok h.configFile
  cap := Policy.defaultCap
  givesCap := rfl
  outDirectory := outDirectory
  givesOut := rfl
  noNull := h.noNull
  made := made
  makes := h.makes
  free := h.free

theorem args_smallCall {t made : FileTree} {outDirectory : String} (h : HoldsSmall t made outDirectory) :
    (smallCall h).args = smallArgs outDirectory := rfl

theorem exists_accepts_small {t made : FileTree} {outDirectory : String}
    (h : HoldsSmall t made outDirectory) : ∃ o, (smallCall h).Accepts o := by
  obtain ⟨o, ho⟩ := exists_compiled_small
  exact ⟨o, ((smallCall h).accepts_iff o).2 ⟨smallConfigured, readConfig_smallConfig, ho⟩⟩

def smallTree : FileTree := ⟨smallFiles, []⟩

theorem holdsSmall_of_path {outDirectory : String} (parts : List String) {made : FileTree}
    (hnull : '\x00' ∉ outDirectory.toList) (hpath : Path.ofText outDirectory = ⟨"", parts⟩)
    (hmakes : smallTree.makeDirectory ⟨"", parts⟩ = .ok made)
    (hplace : ∀ name ∈ fileNames, (made.place ⟨"", parts ++ [name]⟩).toOption = some (.inside (parts ++ [name])))
    (hmissing : ∀ name ∈ fileNames, made.node (.inside (parts ++ [name])) = .missing) :
    HoldsSmall smallTree made outDirectory where
  schemaFile := rfl
  configFile := rfl
  noNull := hnull
  makes := by
    rw [hpath]
    exact hmakes
  free := by
    intro name hname q hq
    rw [hpath, Path.child] at hq
    have hsame := hplace name hname
    rw [hq] at hsame
    obtain rfl := Option.some.inj hsame
    rw [hmissing name hname]
    nofun

theorem holdsSmall_smallTree : HoldsSmall smallTree ⟨smallFiles, [["out"]]⟩ "out" :=
  holdsSmall_of_path ["out"] (by decide) (by decide) rfl (by decide) (by decide)

theorem holdsSmall_tagPath : HoldsSmall smallTree ⟨smallFiles, [["out["], ["out[", "b]"]]⟩ "out[/b]" :=
  holdsSmall_of_path ["out[", "b]"] (by decide) (by decide) rfl (by decide) (by decide)

def verboseCall {t made : FileTree} {outDirectory : String} (h : HoldsSmall t made outDirectory) :
    CompileCall t where
  __ := smallCall h
  args := "-vv" :: smallArgs outDirectory
  program := ⟨[("--verbose", none), ("--verbose", none)], smallArgs outDirectory⟩
  readsProgram := rfl
  noProgramHelp := rfl
  rest := (smallArgs outDirectory).tail
  command := ⟨"compile", by decide, rfl⟩
  readsGiven := rfl

theorem showsLog_verboseCall : (verboseCall holdsSmall_smallTree).ShowsLog logName where
  notice _ := exists_ok_of_isOk (by decide +kernel)
  bound _ c hc b hb := by
    obtain rfl := Except.ok.inj (readConfig_smallConfig.symm.trans hc)
    have hb : b ∈ boundFunctions (asRead smallSchema) smallConfigured Policy.defaultCap := hb
    have hall : ((boundFunctions smallSchema smallConfigured Policy.defaultCap).all fun b =>
        (Text.Markup.unstyled ("Bound '" ++ (b.typeName ++ "." ++ b.fieldName) ++ "' to function '" ++
          b.functionName ++ "'")).isOk) = true := by
      decide +kernel
    rw [asRead_smallSchema] at hb
    exact exists_ok_of_isOk (List.all_eq_true.1 hall b hb)
  written _ := exists_ok_of_isOk (by decide +kernel)

/-- The parts of a path into a directory, and up and down again some times. -/
def turns (name : String) (k : Nat) : List String := name :: (List.replicate k ["..", name]).flatten

theorem follow_turns {t : FileTree} {name : String} (hroot : t.node (.inside []) = .directory)
    (hname : t.node (.inside [name]) = .directory) (hstep : (TreePlace.inside []).step name = .inside [name])
    (hsize : name.utf8ByteSize ≤ nameLimit) (k : Nat) :
    t.follow (.inside []) (turns name k) = .ok (.inside [name]) := by
  have hback : t.follow (.inside [name]) (List.replicate k ["..", name]).flatten = .ok (.inside [name]) := by
    induction k with
    | zero => rfl
    | succ k ih =>
      rw [List.replicate_succ, List.flatten_cons, List.cons_append, List.singleton_append,
        follow_cons_eq_ok_iff]
      refine .inr ⟨hname, by decide, ?_⟩
      have hup : (TreePlace.inside [name]).step ".." = .inside [] := rfl
      rw [hup, follow_cons_eq_ok_iff, hstep]
      exact .inr ⟨hroot, hsize, ih⟩
  rw [turns, follow_cons_eq_ok_iff, hstep]
  exact .inr ⟨hroot, hsize, hback⟩

theorem of_mem_turns {name part : String} {k : Nat} (h : part ∈ turns name k) : part = name ∨ part = ".." := by
  simp only [turns, List.mem_cons, List.mem_flatten, List.mem_replicate] at h
  rcases h with h | ⟨turn, ⟨-, rfl⟩, h⟩
  · exact .inl h
  · simpa [or_comm] using h

theorem ofText_turns {name : String} (h : '/' ∉ name.toList ∧ name ≠ "" ∧ name ≠ ".") (k : Nat) :
    Path.ofText ("/".intercalate (turns name k)) = ⟨"", turns name k⟩ := by
  refine Path.ofText_intercalate fun part hpart => ?_
  rcases of_mem_turns hpart with rfl | rfl
  · exact h
  · decide

theorem utf8ByteSize_turns (name : String) (k : Nat) (more : List String) :
    ("/".intercalate (turns name k ++ more)).utf8ByteSize =
      name.utf8ByteSize + k * (name.utf8ByteSize + 4) + (more.map fun s => 1 + s.utf8ByteSize).sum := by
  have hslash : "/".utf8ByteSize = 1 := by decide
  have hdots : "..".utf8ByteSize = 2 := by decide
  rw [turns, List.cons_append, utf8ByteSize_intercalate, List.map_append, List.sum_append, List.map_flatten,
    List.sum_flatten, List.map_map, List.map_replicate, List.sum_replicate_nat]
  simp only [Function.comp_apply, List.map_cons, List.map_nil, List.sum_cons, List.sum_nil, hslash, hdots]
  have hturn : 1 + 2 + (1 + name.utf8ByteSize + 0) = name.utf8ByteSize + 4 := by omega
  rw [hturn, Nat.add_assoc]

def longName : String := String.ofList (List.replicate 252 'd')

def longPath : String := "/".intercalate (turns longName 15)

def longTree : FileTree := ⟨smallFiles ++ [([longName, "x"], "")], []⟩

theorem eq_of_mem_longName {c : Char} (h : c ∈ longName.toList) : c = 'd' := by
  have hlist : longName.toList = List.replicate 252 'd' := String.toList_ofList
  exact List.eq_of_mem_replicate (hlist ▸ h)

theorem utf8ByteSize_longName : longName.utf8ByteSize = 252 := by decide +kernel

theorem longName_ne {part : String} (h : part.utf8ByteSize ≠ 252) : longName ≠ part := by
  rintro rfl
  exact h utf8ByteSize_longName

theorem ofText_longPath : Path.ofText longPath = ⟨"", turns longName 15⟩ := by
  rw [longPath]
  have hslash : '/' ∉ longName.toList := fun h => absurd (eq_of_mem_longName h) (by decide)
  exact ofText_turns ⟨hslash, longName_ne (by decide), longName_ne (by decide)⟩ 15

theorem utf8ByteSize_longPath (more : List String) :
    (Path.mk "" (turns longName 15 ++ more)).shown.utf8ByteSize =
      4092 + (more.map fun s => 1 + s.utf8ByteSize).sum := by
  have hshown : (Path.mk "" (turns longName 15 ++ more)).shown =
      "/".intercalate (turns longName 15 ++ more) := by
    rw [Path.shown, if_neg, String.empty_append]
    exact fun hempty => List.cons_ne_nil _ _ hempty.2
  rw [hshown, utf8ByteSize_turns, utf8ByteSize_longName]

theorem node_longName : longTree.node (.inside [longName]) = .directory := by decide +kernel

theorem place_longPath : longTree.place (Path.ofText longPath) = .ok (.inside [longName]) := by
  have hroot : longTree.node (.inside []) = .directory := rfl
  have hstep : (TreePlace.inside []).step longName = .inside [longName] := by
    have hstays : ¬(longName = "" ∨ longName = ".") :=
      not_or.2 ⟨longName_ne (by decide), longName_ne (by decide)⟩
    rw [TreePlace.step, if_neg hstays]
    exact if_neg (longName_ne (by decide))
  have hsize : longName.utf8ByteSize ≤ nameLimit := by
    rw [utf8ByteSize_longName]
    decide
  have hlong := utf8ByteSize_longPath []
  rw [List.append_nil] at hlong
  rw [ofText_longPath, place_eq_ok_iff, hlong]
  exact ⟨by decide, follow_turns hroot node_longName hstep hsize 15⟩

theorem long_of_fileNames : ∀ name ∈ fileNames,
    pathLimit < ((Path.ofText longPath).child name).shown.utf8ByteSize := by
  rw [ofText_longPath]
  intro name hname
  rw [Path.child, utf8ByteSize_longPath]
  revert name hname
  decide

theorem holdsSmall_longTree : HoldsSmall longTree longTree longPath where
  schemaFile := rfl
  configFile := rfl
  noNull := by
    intro hnull
    rw [longPath, String.toList_intercalate] at hnull
    rcases mem_of_mem_intercalate hnull with hslash | ⟨cs, hcs, hc⟩
    · exact absurd hslash (by decide)
    · obtain ⟨part, hpart, rfl⟩ := List.mem_map.1 hcs
      rcases of_mem_turns hpart with rfl | rfl
      · exact absurd (eq_of_mem_longName hc) (by decide)
      · exact absurd hc (by decide)
  makes := makeDirectory_of_place place_longPath node_longName
  free := by
    intro name hname q hplace
    exact absurd ((place_eq_ok_iff _ _ _).1 hplace).1 (Nat.not_le.2 (long_of_fileNames name hname))

theorem not_showsLog_tagPath : ¬(verboseCall holdsSmall_tagPath).ShowsLog logName := by
  intro hlog
  have hread : (Text.Markup.unstyled
      ("Wrote transformed schema and stack to " ++ (Path.ofText "out[/b]").shown)).isOk = false := by
    decide +kernel
  obtain ⟨line, hline⟩ := hlog.written (by decide)
  change Text.Markup.unstyled ("Wrote transformed schema and stack to " ++ (Path.ofText "out[/b]").shown) = _ at hline
  rw [hline] at hread
  contradiction

end Small

end CommandLine

end SchemaAccess
