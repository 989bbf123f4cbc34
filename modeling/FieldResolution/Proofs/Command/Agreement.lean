import FieldResolution.Command.Run
import FieldResolution.Proofs.Resolution.Report
import Mathlib.Data.List.Basic

/-!
# Two commands over the same files

What a command prints depends on its action, but how it ends does not.  `Invocation.ending` says
which document is refused, which fault breaks off the reading, which faults a run finds or which
fields it settles, and a command adds to it only what it prints (`run_eq`).  So the two commands
leave the same exit code behind, say the same of what they refuse, and print nothing but whole
answers (`resolve_columns_agree`).  The exit code 2 tells that a document is not loaded exactly
where every file that is met can be read: a fault in reading ends a command as a failed run does.
-/

namespace FieldResolution

/-- What is said of a run that fails: its diagnostics, and all its faults in one message. -/
def Request.complaint (q : Request) : List String :=
  q.findings.diagnostics.map Diagnostic.text ++
    ["Error: " ++ ("Field resolution failed for " ++ q.resource ++ " (" ++
      toString q.findings.errors.length ++ " error(s)):\n" ++
      "\n".intercalate (q.findings.errors.map fun e => "  - [" ++ e.code ++ "] " ++ e.message))]

theorem Request.eq_of_resolve_eq_error {q : Request} {f : Failure} (h : q.resolve = .error f) :
    f = { resource := q.resource, errors := q.findings.errors,
          diagnostics := q.findings.diagnostics } := by
  unfold resolve conclude at h
  split_ifs at h
  exact (Except.error.inj h).symm

/-- The wide listing has every header of the narrow one, in the same order. -/
theorem FieldSet.headers_sublist (s : FieldSet) : (s.headers false).Sublist (s.headers true) := by
  have kept : (s.columns.filter fun c => false || c.priority == 0).Sublist
      (s.columns.filter fun c => true || c.priority == 0) :=
    List.monotone_filter_right s.columns fun _ _ => rfl
  exact ((kept.map Column.header).cons_cons "NAME").append (List.Sublist.refl _)

namespace Invocation

/-- The invocation with another action, and with more or less of its log shown. -/
def asking (i : Invocation) (a : Action) (verbose : Bool) : Invocation :=
  { i with action := a, verbose }

/-- Both documents of an invocation are loaded, and this is asked of them. -/
def Asks (i : Invocation) (files : String → FileState) (q : Request) : Prop :=
  ∃ model c trace, loadModel files (normalPath i.shapes) = .ok model ∧
    i.configuration files = .ok (c, trace) ∧
    q = { model, resource := i.resource, directives := c.resource i.resource }

/-- A document of an invocation is not loaded for this reason: the model, or else the
configuration. -/
def Lacks (i : Invocation) (files : String → FileState) (e : LoadError) : Prop :=
  loadModel files (normalPath i.shapes) = .error e ∨
    ∃ model, loadModel files (normalPath i.shapes) = .ok model ∧ i.configuration files = .error e

/-! ## How a command ends -/

/-- What a command has come to when it starts to print. -/
inductive Ending where
  | refused (r : Refusal)
  | broken (fault : ReadFault)
  | failed (f : Failure)
  | settled (s : FieldSet)

namespace Ending

/-- The end of a command that lacks a document. -/
def ofLoadError : LoadError → Ending
  | .refused r => .refused r
  | .unread fault => .broken fault

/-- The end of a run. -/
def ofAnswer : Except Failure FieldSet → Ending
  | .error f => .failed f
  | .ok s => .settled s

def exitCode : Ending → Nat
  | refused _ => 2
  | broken _ | failed _ => 1
  | settled _ => 0

/-- The fault that is not caught. -/
def fault? : Ending → Option ReadFault
  | broken fault => some fault
  | _ => none

/-- What is printed as the answer of an action. -/
def answer (a : Action) : Ending → List String
  | refused _ | broken _ | failed _ => []
  | settled s => output a s

/-- What an action says beside its answer. -/
def remarks (a : Action) : Ending → List String
  | refused r => ["Error: " ++ r.message]
  | broken _ => []
  | failed f => f.diagnostics.map Diagnostic.text ++ ["Error: " ++ f.message]
  | settled s => comments a s

theorem ofLoadError_injective {e e' : LoadError} (h : ofLoadError e = ofLoadError e') : e = e' := by
  cases e <;> cases e' <;> cases h <;> rfl

theorem ofAnswer_injective {a b : Except Failure FieldSet} (h : ofAnswer a = ofAnswer b) :
    a = b := by
  cases a <;> cases b <;> cases h <;> rfl

theorem ofLoadError_ne_ofAnswer (e : LoadError) (a : Except Failure FieldSet) :
    ofLoadError e ≠ ofAnswer a := by
  cases e <;> cases a <;> nofun

variable {e : Ending}

theorem exitCode_eq_two_iff : e.exitCode = 2 ↔ ∃ r, e = .ofLoadError (.refused r) := by
  cases e with
  | refused r => exact ⟨fun _ => ⟨r, rfl⟩, fun _ => rfl⟩
  | broken _ | failed _ | settled _ => exact ⟨nofun, nofun⟩

theorem exitCode_eq_one_iff :
    e.exitCode = 1 ↔
      (∃ fault, e = .ofLoadError (.unread fault)) ∨ ∃ f, e = .ofAnswer (.error f) := by
  cases e with
  | broken fault => exact ⟨fun _ => .inl ⟨fault, rfl⟩, fun _ => rfl⟩
  | failed f => exact ⟨fun _ => .inr ⟨f, rfl⟩, fun _ => rfl⟩
  | refused _ | settled _ => exact ⟨nofun, nofun⟩

theorem exitCode_eq_zero_iff : e.exitCode = 0 ↔ ∃ s, e = .ofAnswer (.ok s) := by
  cases e with
  | settled s => exact ⟨fun _ => ⟨s, rfl⟩, fun _ => rfl⟩
  | refused _ | broken _ | failed _ => exact ⟨nofun, nofun⟩

theorem fault?_eq_some_iff {fault : ReadFault} :
    e.fault? = some fault ↔ e = .ofLoadError (.unread fault) := by
  cases e with
  | broken fault' => exact ⟨fun h => congrArg broken (Option.some.inj h), fun h => by cases h; rfl⟩
  | refused _ | failed _ | settled _ => exact ⟨nofun, nofun⟩

/-- Without an answer, every action says the same. -/
theorem silent_of_exitCode_ne_zero (h : e.exitCode ≠ 0) (a b : Action) :
    e.answer a = [] ∧ e.remarks a = e.remarks b := by
  cases e with
  | refused _ => exact ⟨rfl, rfl⟩
  | broken _ => exact ⟨rfl, rfl⟩
  | failed _ => exact ⟨rfl, rfl⟩
  | settled _ => exact absurd rfl h

end Ending

section

variable (i : Invocation) (files : String → FileState)

/-- How an invocation ends, whatever it is to print. -/
def ending : Ending :=
  match loadModel files (normalPath i.shapes), i.configuration files with
  | .error e, _ => .ofLoadError e
  | .ok _, .error e => .ofLoadError e
  | .ok model, .ok (c, _) =>
    .ofAnswer (Request.resolve
      { model, resource := i.resource, directives := c.resource i.resource })

/-- The log of an invocation, whatever is shown of it. -/
def records : List LogRecord :=
  modelTrace files (normalPath i.shapes) ++
    match loadModel files (normalPath i.shapes), i.configuration files with
    | .ok model, .ok (c, trace) =>
      trace ++ Request.trace { model, resource := i.resource, directives := c.resource i.resource }
    | _, _ => []

theorem abort_eq (log : List String) (e : LoadError) (a : Action) :
    abort log e =
      { exitCode := (Ending.ofLoadError e).exitCode
        stdout := (Ending.ofLoadError e).answer a
        stderr := log ++ (Ending.ofLoadError e).remarks a
        fault := (Ending.ofLoadError e).fault? } := by
  cases e with
  | refused r => rfl
  | unread fault =>
    rw [abort, Ending.ofLoadError, Ending.remarks, List.append_nil]
    rfl

theorem shown_append (l l' : List LogRecord) : i.shown (l ++ l') = i.shown l ++ i.shown l' := by
  rw [shown, List.filter_append, List.map_append]
  rfl

/-- A command adds nothing to its end but what it prints of it. -/
theorem run_eq :
    i.run files =
      { exitCode := (i.ending files).exitCode
        stdout := (i.ending files).answer i.action
        stderr := i.shown (i.records files) ++ (i.ending files).remarks i.action
        fault := (i.ending files).fault? } := by
  cases hm : loadModel files (normalPath i.shapes) with
  | error e => simp only [run, ending, records, hm, List.append_nil, abort_eq _ _ i.action]
  | ok model =>
    cases hc : i.configuration files with
    | error e => simp only [run, ending, records, hm, hc, List.append_nil, abort_eq _ _ i.action]
    | ok loaded =>
      simp only [run, ending, records, hm, hc, ← i.shown_append, finish]
      cases Request.resolve
        { model, resource := i.resource, directives := loaded.1.resource i.resource } with
      | error f =>
        simp only [Ending.ofAnswer, Ending.exitCode, Ending.answer, Ending.remarks, Ending.fault?,
          List.append_assoc]
      | ok s => rfl

/-- Two actions differ in what they print of one end, and in the part of one log that is shown. -/
theorem run_asking (a : Action) (verbose : Bool) :
    (i.asking a verbose).run files =
      { exitCode := (i.ending files).exitCode
        stdout := (i.ending files).answer a
        stderr := ((i.records files).filter fun l => verbose || l.isSevere).map LogRecord.line ++
          (i.ending files).remarks a
        fault := (i.ending files).fault? } :=
  (i.asking a verbose).run_eq files

/-! ### Which end it is -/

variable {i} {files}

theorem Lacks.ending_eq {e : LoadError} (h : i.Lacks files e) :
    i.ending files = .ofLoadError e := by
  obtain hm | ⟨model, hm, hc⟩ := h
  · rw [ending, hm]
  · rw [ending, hm, hc]

theorem Asks.ending_eq {q : Request} (h : i.Asks files q) :
    i.ending files = .ofAnswer q.resolve := by
  obtain ⟨model, c, trace, hm, hc, rfl⟩ := h
  rw [ending, hm, hc]

variable (i) (files)

/-- A document is lacking, or there is something to ask of both. -/
theorem exists_lacks_or_asks : (∃ e, i.Lacks files e) ∨ ∃ q, i.Asks files q := by
  cases hm : loadModel files (normalPath i.shapes) with
  | error e => exact .inl ⟨e, .inl hm⟩
  | ok model =>
    cases hc : i.configuration files with
    | error e => exact .inl ⟨e, .inr ⟨model, hm, hc⟩⟩
    | ok loaded => exact .inr ⟨_, model, loaded.1, loaded.2, hm, hc, rfl⟩

theorem ending_eq_ofLoadError_iff {e : LoadError} :
    i.ending files = .ofLoadError e ↔ i.Lacks files e := by
  refine ⟨fun ends => ?_, Lacks.ending_eq⟩
  obtain ⟨e', lacks⟩ | ⟨q, asks⟩ := i.exists_lacks_or_asks files
  · rwa [← Ending.ofLoadError_injective (lacks.ending_eq.symm.trans ends)]
  · exact absurd (ends.symm.trans asks.ending_eq) (Ending.ofLoadError_ne_ofAnswer _ _)

theorem ending_eq_ofAnswer_iff {a : Except Failure FieldSet} :
    i.ending files = .ofAnswer a ↔ ∃ q, i.Asks files q ∧ q.resolve = a := by
  constructor
  · intro ends
    obtain ⟨e, lacks⟩ | ⟨q, asks⟩ := i.exists_lacks_or_asks files
    · exact absurd (lacks.ending_eq.symm.trans ends) (Ending.ofLoadError_ne_ofAnswer _ _)
    · exact ⟨q, asks, Ending.ofAnswer_injective (asks.ending_eq.symm.trans ends)⟩
  · rintro ⟨q, asks, rfl⟩
    exact asks.ending_eq

/-- One document that is not loaded is enough, whichever it is. -/
theorem exists_lacks_iff :
    (∃ e, i.Lacks files e) ↔
      (∃ e, loadModel files (normalPath i.shapes) = .error e) ∨
        ∃ e, i.configuration files = .error e := by
  constructor
  · rintro ⟨e, bad | ⟨_, -, bad⟩⟩
    · exact .inl ⟨e, bad⟩
    · exact .inr ⟨e, bad⟩
  · rintro (⟨e, bad⟩ | ⟨e, bad⟩)
    · exact ⟨e, .inl bad⟩
    · cases hm : loadModel files (normalPath i.shapes) with
      | error e' => exact ⟨e', .inl hm⟩
      | ok model => exact ⟨e, .inr ⟨model, hm, bad⟩⟩

theorem exitCode_ending_eq_two_iff :
    (i.ending files).exitCode = 2 ↔ ∃ r, i.Lacks files (.refused r) :=
  Ending.exitCode_eq_two_iff.trans (exists_congr fun _ => i.ending_eq_ofLoadError_iff files)

theorem fault?_ending_eq_some_iff {fault : ReadFault} :
    (i.ending files).fault? = some fault ↔ i.Lacks files (.unread fault) :=
  Ending.fault?_eq_some_iff.trans (i.ending_eq_ofLoadError_iff files)

theorem exitCode_ending_eq_one_iff :
    (i.ending files).exitCode = 1 ↔
      (∃ fault, i.Lacks files (.unread fault)) ∨
        ∃ q f, i.Asks files q ∧ q.resolve = .error f := by
  rw [Ending.exitCode_eq_one_iff, exists_comm]
  exact or_congr (exists_congr fun _ => i.ending_eq_ofLoadError_iff files)
    (exists_congr fun _ => i.ending_eq_ofAnswer_iff files)

theorem exitCode_ending_eq_zero_iff :
    (i.ending files).exitCode = 0 ↔ ∃ q s, i.Asks files q ∧ q.resolve = .ok s := by
  rw [Ending.exitCode_eq_zero_iff, exists_comm]
  exact exists_congr fun _ => i.ending_eq_ofAnswer_iff files

/-- The exit code 2 stands for a document that is not loaded exactly where no fault in reading is
met. -/
theorem exitCode_ending_eq_two_iff_lacks_iff :
    ((i.ending files).exitCode = 2 ↔ ∃ e, i.Lacks files e) ↔
      ∀ fault, ¬i.Lacks files (.unread fault) := by
  rw [exitCode_ending_eq_two_iff]
  constructor
  · intro told fault unread
    obtain ⟨r, refused⟩ := told.2 ⟨_, unread⟩
    cases Ending.ofLoadError_injective (refused.ending_eq.symm.trans unread.ending_eq)
  · intro readable
    refine ⟨fun ⟨r, refused⟩ => ⟨_, refused⟩, fun ⟨e, lacks⟩ => ?_⟩
    cases e with
    | refused r => exact ⟨r, lacks⟩
    | unread fault => exact absurd lacks (readable fault)

variable {i} {files}

theorem Lacks.remarks_ending {r : Refusal} (h : i.Lacks files (.refused r)) (a : Action) :
    (i.ending files).remarks a = ["Error: " ++ r.message] := by
  rw [h.ending_eq]
  rfl

theorem Lacks.remarks_ending_unread {fault : ReadFault} (h : i.Lacks files (.unread fault))
    (a : Action) : (i.ending files).remarks a = [] := by
  rw [h.ending_eq]
  rfl

theorem Asks.remarks_ending {q : Request} (h : i.Asks files q)
    (nonzero : (i.ending files).exitCode ≠ 0) (a : Action) :
    (i.ending files).remarks a = q.complaint := by
  rw [h.ending_eq] at nonzero ⊢
  cases answer : q.resolve with
  | error f =>
    rw [Request.eq_of_resolve_eq_error answer]
    rfl
  | ok s =>
    rw [answer] at nonzero
    exact absurd rfl nonzero

end

/-! ## The two commands -/

/-- `resolve` and `columns` end alike over the same files.  The exit code is 2 exactly if a loader
refuses a document, 1 exactly if a fault breaks off the reading or both documents are loaded and the
fields cannot be resolved, and 0 otherwise.  So 2 stands for a document that is not loaded exactly
where no file that is met has a fault in reading.  Unless the exit code is 0, nothing is printed as
an answer, and beside the log the same is said: what is wrong with the document that is refused, the
model first, or every diagnostic of the run followed by all its faults; of a fault in reading
nothing is said by the command itself.  If it is 0, the wide listing has every header of the narrow
one, in the same order. -/
theorem resolve_columns_agree (i : Invocation) (files : String → FileState)
    (format : OutputFormat) (wide loud loud' : Bool) :
    let r := (i.asking (.resolve format) loud).run files
    let c := (i.asking (.columns wide) loud').run files
    r.exitCode = c.exitCode ∧
      (r.exitCode = 2 ↔ ∃ e, i.Lacks files (.refused e)) ∧
      (r.exitCode = 1 ↔
        (∃ fault, i.Lacks files (.unread fault)) ∨
          ∃ q f, i.Asks files q ∧ q.resolve = .error f) ∧
      (r.exitCode = 0 ↔ ∃ q s, i.Asks files q ∧ q.resolve = .ok s) ∧
      ((r.exitCode = 2 ↔ (∃ e, loadModel files (normalPath i.shapes) = .error e) ∨
          ∃ e, i.configuration files = .error e) ↔
        ∀ fault, ¬i.Lacks files (.unread fault)) ∧
      (r.fault = c.fault ∧ ∀ fault, r.fault = some fault ↔ i.Lacks files (.unread fault)) ∧
      (r.exitCode ≠ 0 → r.stdout = [] ∧ c.stdout = [] ∧ ∃ told : List String,
        r.stderr =
          ((i.records files).filter fun l => loud || l.isSevere).map LogRecord.line ++ told ∧
        c.stderr =
          ((i.records files).filter fun l => loud' || l.isSevere).map LogRecord.line ++ told ∧
        (∀ e, i.Lacks files (.refused e) → told = ["Error: " ++ e.message]) ∧
        (∀ fault, i.Lacks files (.unread fault) → told = []) ∧
        ∀ q, i.Asks files q → told = q.complaint ∧
          q.findings.diagnostics.filter Diagnostic.isError = q.findings.errors.map .failed) ∧
      ∀ q s, i.Asks files q → q.resolve = .ok s →
        r.stdout = output (.resolve format) s ∧
        ((i.asking (.columns false) loud').run files).stdout =
          ["\t".intercalate (s.headers false)] ∧
        ((i.asking (.columns true) loud').run files).stdout =
          ["\t".intercalate (s.headers true)] ∧
        (s.headers false).Sublist (s.headers true) := by
  intro r c
  have resolve_eq : r = _ := i.run_asking files (.resolve format) loud
  have columns_eq : c = _ := i.run_asking files (.columns wide) loud'
  have code : r.exitCode = (i.ending files).exitCode := by rw [resolve_eq]
  have fault : r.fault = (i.ending files).fault? := by rw [resolve_eq]
  refine ⟨by rw [resolve_eq, columns_eq], ?_, ?_, ?_, ?_, ⟨by rw [resolve_eq, columns_eq], ?_⟩,
    fun nonzero => ?_, fun q s asks settles => ?_⟩
  · rw [code, exitCode_ending_eq_two_iff]
  · rw [code, exitCode_ending_eq_one_iff]
  · rw [code, exitCode_ending_eq_zero_iff]
  · rw [code, ← exists_lacks_iff, exitCode_ending_eq_two_iff_lacks_iff]
  · intro unread
    rw [fault, fault?_ending_eq_some_iff]
  · rw [code] at nonzero
    have silent := fun a => Ending.silent_of_exitCode_ne_zero nonzero a (.columns wide)
    refine ⟨?_, ?_, (i.ending files).remarks (.columns wide), ?_, ?_,
      fun e lacks => lacks.remarks_ending _, fun _ lacks => lacks.remarks_ending_unread _,
      fun q asks => ⟨asks.remarks_ending nonzero _, q.findings.filter_isError_diagnostics⟩⟩
    · rw [resolve_eq]
      exact (silent _).1
    · rw [columns_eq]
      exact (silent _).1
    · rw [resolve_eq, (silent (.resolve format)).2]
    · rw [columns_eq]
  · have settled : i.ending files = .settled s := by
      rw [asks.ending_eq, settles]
      rfl
    rw [resolve_eq, run_asking, run_asking, settled]
    exact ⟨rfl, rfl, rfl, s.headers_sublist⟩

/-- A model whose stacks have a name, under a configuration that speaks of their color. -/
def stackFiles (path : String) : FileState :=
  if path = "model.yaml" then
    .document (.record
      [("shapes", .record
        [("StackInput", .record [("members", .record [("Name", .text "string")])])]),
        ("operations", .list
          [.record [("name", .text "CreateStack"), ("input", .text "StackInput")]])])
  else if path = defaultConfig then
    .document (.record
      [("resources", .record
        [("Stack", .record
          [("fields", .record [("Color", .record [("is_secret", .bool true)])])])])])
  else .missing

def stackInvocation : Invocation :=
  { shapes := "./model.yaml", resource := "Stack", action := .columns false }

def stackConfiguration : Configuration :=
  { resources := [("Stack", { fields := [("Color", { isSecret := some true })] })] }

def stackRequest : Request where
  model :=
    { shapes := [{ name := "StackInput", members := [⟨"Name", .string, false⟩] }]
      operations := [{ name := "CreateStack", input := some 0, kind := .create }] }
  resource := "Stack"
  directives := stackConfiguration.resource "Stack"

theorem resolve_columns_agree_stackFiles :
    stackRequest.findings.errors = [⟨"Color", .unknownOverride⟩] ∧
      ((stackInvocation.asking (.resolve .table) true).run stackFiles).exitCode = 1 ∧
      ((stackInvocation.asking (.columns true) false).run stackFiles).exitCode = 1 ∧
      ((stackInvocation.asking (.columns true) false).run stackFiles).stdout = [] ∧
      stackRequest.complaint <:+
        ((stackInvocation.asking (.columns true) false).run stackFiles).stderr := by
  have asks : stackInvocation.Asks stackFiles stackRequest :=
    ⟨stackRequest.model, stackConfiguration, [configurationTrace defaultConfig stackConfiguration],
      by cbv, by cbv, rfl⟩
  have errors : stackRequest.findings.errors = [⟨"Color", .unknownOverride⟩] := by cbv
  have faulty : stackRequest.findings.errors ≠ [] := by
    rw [errors]
    exact List.cons_ne_nil _ _
  obtain ⟨f, fails⟩ := stackRequest.resolve_isError_iff.2 faulty
  obtain ⟨same, -, one, -, -, -, silent, -⟩ :=
    resolve_columns_agree stackInvocation stackFiles .table true true false
  have code := one.2 (.inr ⟨stackRequest, f, asks, fails⟩)
  obtain ⟨-, nothing, told, -, said, -, -, told_eq⟩ := silent (by rw [code]; exact Nat.one_ne_zero)
  refine ⟨errors, code, same.symm.trans code, nothing, ?_⟩
  rw [said, (told_eq _ asks).1]
  exact List.suffix_append _ _

/-- A model with a date in a month that does not exist, which its parser cannot build. -/
def datedFiles (path : String) : FileState :=
  if path = "model.yaml" then
    .unreadable { kind := "ValueError", message := "month must be in 1..12" }
  else .missing

/-- The model is not loaded, and neither command tells it by the exit code 2. -/
theorem exitCode_eq_one_of_datedFiles :
    (∃ e, loadModel datedFiles (normalPath stackInvocation.shapes) = .error e) ∧
      ((stackInvocation.asking (.resolve .table) false).run datedFiles).exitCode = 1 ∧
      ((stackInvocation.asking (.columns false) false).run datedFiles).exitCode = 1 :=
  ⟨⟨.unread { kind := "ValueError", message := "month must be in 1..12" }, by cbv⟩, by cbv, by cbv⟩

end Invocation

end FieldResolution
