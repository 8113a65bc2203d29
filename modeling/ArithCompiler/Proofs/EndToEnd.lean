import ArithCompiler.Cli.Run
import ArithCompiler.Proofs.Expressions
import ArithCompiler.Proofs.Simulation
import ArithCompiler.Suite.Run
import Mathlib.Control.Monad.Basic

/-!
# Expressions from text to exit status

Every text of an expression compiles, and its code returns the value of the
expression. The status is the value modulo 256, both for a case of a suite and for
a command line that runs a program.
-/

namespace ArithCompiler

theorem exists_compile_of_prints {e : Arith} {text : List Char} (hd : e.isDefined = true)
    (ht : PrintsProgram e text) (o : Options) :
    ∃ c, (compile o (Text.encode (String.ofList text))).2 = .ok c ∧
      c.function.run = .ok e.value.toInt32 := by
  have hdecode : Text.decode (Text.encode (String.ofList text)) = text := by
    rw [Text.decode_encode, String.toList_ofList]
  have hscan := tokenize_eq (Text.encode (String.ofList text))
  have hwords := map_word_tokenize hscan
  rw [hdecode] at hscan hwords
  obtain ⟨t, s, hyield, htrees, hgives⟩ := ht.exists_statements hwords
  obtain ⟨events, hbuild, _⟩ := Grammar.build_yield t
  rw [hyield, htrees] at hbuild
  have hs := isStatement_of_build hscan hbuild
  have hvars : ∀ x ∈ [s], x.vars = [] := by simpa using hgives.vars
  obtain ⟨g, l, hgen⟩ := exists_generate_eq_ok o.function hs hvars
  refine ⟨⟨[s], g.function⟩, compile_eq_ok.mpr ⟨_, events, g, l, hscan, hbuild, hgen, rfl⟩, ?_⟩
  have heval := hgives.evaluate hd
  rcases run_generate hs hgives.literals hgen with ⟨x, hx, hrun⟩ | ⟨hzero, _⟩
  · rw [heval] at hx
    cases hx
    exact hrun
  · rw [heval] at hzero
    cases hzero

/-! ### Statuses -/

theorem statusOf_toInt32 (x : UInt32) : statusOf x.toInt32 = x.toNat % 256 := by
  have htoInt : x.toInt32.toInt = if 2 * x.toNat < 2 ^ 32 then (x.toNat : Int)
      else (x.toNat : Int) - (2 ^ 32 : Nat) := BitVec.toInt_eq_toNat_cond x.toBitVec
  rw [statusOf, htoInt]
  split <;> omega

theorem outcome_execute_interp {f : Function} {x : UInt32} (hrun : f.run = .ok x.toInt32)
    (t : Toolchain) (h : Host) (style : PointerStyle) :
    (execute "interp" t h style f).outcome = .ok (x.toNat % 256) := by
  simp only [execute, ite_true, hrun, Except.mapError, Except.map, statusOf_toInt32]

namespace Cli

theorem code_runArgs {w : World} {args : List String} {i : Invocation} {s : Setup}
    {input : List UInt8} {c : Compiled} {code : Nat}
    (hargs : Invocation.ofArgs args = .ok i) (hcommand : i.command = .run)
    (hsetup : Setup.ofInvocation w i = .ok s) (hinput : readInput w i.operand = .ok input)
    (hcompile : (compile s.configuration.options input).2 = .ok c)
    (hexec : (execute (i.parsed.value engineFlag)
      ⟨s.configuration.cc, s.configuration.flags, s.configuration.keep⟩ w.host
      s.configuration.pointers c.function).outcome = .ok code) :
    (runArgs w args).code = code := by
  have hrun : (i.run w s).result = .ok ("", code) := by
    simp [Invocation.run, hcommand, hinput, runCommand, hcompile, hexec]
  simp [runArgs, hargs, hsetup, hrun]

/-! ### Settings of a run without sources -/

theorem lower_eq (s : String) : Text.lower s = String.ofList (s.toList.map Text.lowerChar) := by
  rw [Text.lower, ← String.toList_map, String.ofList_toList]

/-- The flags that stand for settings, none of which is given. -/
def unchangedFlags : List Config.BoundFlag :=
  [⟨"log.level", false, .text "warn"⟩, ⟨"log.format", false, .text "console"⟩,
    ⟨"ir.function", false, .text "main"⟩, ⟨"ir.pointers", false, .text "opaque"⟩,
    ⟨"dump.tree", false, .text "none"⟩, ⟨"toolchain.cc", false, .text "clang"⟩,
    ⟨"toolchain.keep", false, .bool false⟩]

theorem bind_run (engine : String) :
    bind CommandName.run.flags ⟨[("engine", engine)], []⟩ CommandName.run.bindings =
      .ok unchangedFlags := by
  simp only [CommandName.bindings, ite_true, List.cons_append, List.nil_append, bind, boundFlag,
    lower_eq]
  rfl

theorem settings_unchangedFlags :
    Config.Sources.settings ⟨unchangedFlags, [], []⟩ =
      [("log", .table [("level", .text "warn"), ("format", .text "console")]),
        ("ir", .table [("function", .text "main"), ("pointers", .text "opaque")]),
        ("dump", .table [("tree", .text "none")]),
        ("toolchain", .table [("cc", .text "clang"), ("keep", .bool false),
          ("flags", .list [])])] := by
  have hkeys : Config.Sources.keys ⟨unchangedFlags, [], []⟩ =
      ["log.level", "log.format", "ir.function", "ir.pointers", "dump.tree", "toolchain.cc",
        "toolchain.keep", "toolchain.flags"] := by decide +kernel
  simp only [Config.Sources.settings, hkeys]
  rfl

def defaultConfiguration : Config.Configuration :=
  ⟨"warn", "console", "main", .untyped, .none, "clang", [], false⟩

theorem load_unchangedFlags :
    Config.load (Config.Sources.settings ⟨unchangedFlags, [], []⟩) = .ok defaultConfiguration := by
  rw [settings_unchangedFlags]
  decide +kernel

theorem setup_run {w : World} (hw : w.host.environment = []) (engine : String)
    (operand : Option String) :
    Setup.ofInvocation w ⟨.run, ⟨[("engine", engine)], []⟩, operand⟩ =
      .ok ⟨⟨unchangedFlags, [], []⟩, defaultConfiguration, ⟨.warn, .console⟩⟩ := by
  have hfile : Config.fileTable w.host.files
      (Parsed.value ⟨[("engine", engine)], []⟩ configFlag) = .ok [] := rfl
  have hlog : Log.Settings.parse defaultConfiguration.logLevel defaultConfiguration.logFormat =
      .ok ⟨.warn, .console⟩ := by decide +kernel
  simp only [Setup.ofInvocation, bind_run, hfile, hw, Except.mapError, Bind.bind, Except.bind,
    load_unchangedFlags, hlog, pure, Except.pure]

theorem ofArgs_run : Invocation.ofArgs ["run", "--engine", "interp"] =
    .ok ⟨.run, ⟨[("engine", "interp")], []⟩, none⟩ := by
  decide +kernel

end Cli

/-- The texts of an expression compile to code that returns its value, which becomes
the exit status: of a case of a suite, of every command line that runs the text and
has valid settings, and so of one that only names the engine. -/
theorem run_printed {e : Arith} {text : List Char} (hd : e.isDefined = true)
    (ht : PrintsProgram e text) :
    (∀ o, ∃ c, (compile o (Text.encode (String.ofList text))).2 = .ok c ∧
      c.function.run = .ok e.value.toInt32) ∧
    (∀ toolchain host, (Suite.Runner.execute ⟨"interp", toolchain⟩ host
      (Text.encode (String.ofList text))).1 = .ok (e.value.toNat % 256)) ∧
    (∀ w args i s, Cli.Invocation.ofArgs args = .ok i → i.command = .run →
      i.parsed.value Cli.engineFlag = "interp" → Cli.Setup.ofInvocation w i = .ok s →
      Cli.readInput w i.operand = .ok (Text.encode (String.ofList text)) →
      (Cli.runArgs w args).code = e.value.toNat % 256) ∧
    ∀ w : Cli.World, w.host.environment = [] → w.stdinFails = none →
      w.stdin = Text.encode (String.ofList text) →
      (Cli.runArgs w ["run", "--engine", "interp"]).code = e.value.toNat % 256 := by
  have hcompile := exists_compile_of_prints hd ht
  have hstatus : ∀ {w args i s}, Cli.Invocation.ofArgs args = .ok i → i.command = .run →
      i.parsed.value Cli.engineFlag = "interp" → Cli.Setup.ofInvocation w i = .ok s →
      Cli.readInput w i.operand = .ok (Text.encode (String.ofList text)) →
      (Cli.runArgs w args).code = e.value.toNat % 256 := by
    intro w args i s hargs hcommand hengine hsetup hinput
    obtain ⟨c, hc, hrun⟩ := hcompile s.configuration.options
    apply Cli.code_runArgs hargs hcommand hsetup hinput hc
    rw [hengine]
    exact outcome_execute_interp hrun _ _ _
  refine ⟨hcompile, ?_, fun _ _ _ _ => hstatus, ?_⟩
  · intro toolchain host
    obtain ⟨c, hc, hrun⟩ := hcompile ⟨"", .untyped, .none⟩
    have hexec := outcome_execute_interp hrun toolchain host .untyped
    simp only [Suite.Runner.execute, hc, hexec, Except.mapError]
  · intro w hw hfails hstdin
    have hinput : Cli.readInput w none = .ok (Text.encode (String.ofList text)) := by
      simp only [Cli.readInput, Option.getD_none, ite_true, hfails, hstdin]
    exact hstatus Cli.ofArgs_run rfl (by decide +kernel) (Cli.setup_run hw "interp" none) hinput

/-- The expression `(2 - 3) / 7 * 5 - 100`, whose dividend wraps. -/
def wrapping : Arith :=
  .binary .sub
    (.binary .mul
      (.binary .div (.binary .sub (.literal ⟨"2", by decide +kernel⟩)
        (.literal ⟨"3", by decide +kernel⟩)) (.literal ⟨"7", by decide +kernel⟩))
      (.literal ⟨"5", by decide +kernel⟩))
    (.literal ⟨"100", by decide +kernel⟩)

def Blanks.newline : Blanks := ⟨['\n'], List.forall_mem_singleton.mpr Text.isBlank_newline⟩

/-- A text of it, with more parentheses than it needs. -/
def wrappingText : List Char := "return( 2-3)/((7)) * 5 -100\n".toList

theorem printsProgram_wrapping : PrintsProgram wrapping wrappingText := by
  have hdividend : Prints _ _ "( 2-3)".toList :=
    .paren (.binary (.literal ⟨"2", by decide +kernel⟩) (.literal ⟨"3", by decide +kernel⟩)
      (show Operator.sub.rank ≤ 2 by decide) (by decide) .empty .empty) .space .empty
  have hquotient : Prints _ _ "( 2-3)/((7))".toList :=
    .binary hdividend
      (.paren (.paren (.literal ⟨"7", by decide +kernel⟩) .empty .empty) .empty .empty)
      (show Operator.div.rank ≤ 2 by decide) (by decide) .empty .empty
  have hproduct : Prints _ _ "( 2-3)/((7)) * 5".toList :=
    .binary hquotient (.literal ⟨"5", by decide +kernel⟩)
      (show Operator.mul.rank ≤ 1 by decide) (by decide) .space .space
  have hdifference : Prints _ _ "( 2-3)/((7)) * 5 -100".toList :=
    .binary hproduct (.literal ⟨"100", by decide +kernel⟩)
      (show Operator.sub.rank ≤ 1 by decide) (by decide) .space .empty
  exact .ret hdifference .empty .empty .newline

def wrappingWorld : Cli.World :=
  ⟨⟨.base, [], "/", ""⟩, Text.encode (String.ofList wrappingText), none, none, ⟨"", ""⟩⟩

theorem run_printed_wrapping :
    wrapping.isDefined = true ∧ PrintsProgram wrapping wrappingText ∧
      (∃ c, (compile ⟨"", .untyped, .none⟩ (Text.encode (String.ofList wrappingText))).2 = .ok c ∧
        c.function.run = .ok (-1227133616)) ∧
      (Cli.runArgs wrappingWorld ["run", "--engine", "interp"]).code = 80 := by
  have hd : wrapping.isDefined = true := by decide +kernel
  have hvalue : wrapping.value = 3067833680 := by decide +kernel
  have hword : (3067833680 : UInt32).toInt32 = -1227133616 := by decide +kernel
  obtain ⟨hcompile, _, _, hcode⟩ := run_printed hd printsProgram_wrapping
  rw [hvalue] at hcompile hcode
  rw [hword] at hcompile
  exact ⟨hd, printsProgram_wrapping, hcompile ⟨"", .untyped, .none⟩,
    hcode wrappingWorld rfl rfl rfl⟩

end ArithCompiler
