import Mathlib.Data.List.Induction
import RecordRules.Proofs.Document.Writable
import RecordRules.Proofs.Except
import RecordRules.Storage.RuleFile

/-!
# Rule files keep what was written last

Calls on a rule file load its rules and save other ones, in any order.  A save has all of its text
at hand before it touches the file, so that one that fails leaves the folder as it was.  So the file
holds the text of the last save that did not fail, or what it held at first, and this is what every
load reads.

## Key results

- `RuleFile.on_saving_eq_self_of_error`: a save that fails changes nothing
- `RuleFile.run_call`: what one call answers and leaves behind
- `RuleFile.snd_run_session`: the folder that any number of calls leave behind, in closed form
- `RuleFile.session_loses_nothing`: what every call of a session is answered
-/

namespace RecordRules.RuleFile

/-- A call on a rule file. -/
inductive Call where
  | load
  | save (rules : List Rule)

/-- What a call is answered. -/
inductive Answer where
  | loaded (rules : Except Fault (List Rule))
  | saved (done : Except Fault Unit)

/-- Makes a call. -/
def call (f : RuleFile) : Call → StateM Folder Answer
  | .load => Answer.loaded <$> f.loading.run
  | .save rules => Answer.saved <$> (f.saving rules).run

/-- Makes calls, in order. -/
def session (f : RuleFile) (calls : List Call) : StateM Folder (List Answer) :=
  calls.mapM f.call

/-- The text that a call writes, if it writes one. -/
def written? (f : RuleFile) : Call → Option String
  | .load => none
  | .save rules => (f.format.writeRules rules).toOption

/-- The text that was written last. -/
def lastWritten? (f : RuleFile) (calls : List Call) : Option String :=
  (calls.filterMap f.written?).getLast?

/-- What there is to read after calls: the text written last, or else what there was at first. -/
def heldAfter (f : RuleFile) (d : Folder) (calls : List Call) : Except FileFault String :=
  (f.lastWritten? calls).elim (d.readText f.path) .ok

/-- The answer to a call on a file of which this can be read. -/
def answerTo (f : RuleFile) (held : Except FileFault String) : Call → Answer
  | .load => .loaded (((held.mapError .file).bind f.format.readRules).mapError f.refusal)
  | .save rules => .saved (((f.format.writeRules rules).map fun _ => ()).mapError f.refusal)

/-- A load of a text is answered with the rules that the text holds. -/
theorem answerTo_load_ok (f : RuleFile) (text : String) :
    f.answerTo (.ok text) .load = .loaded ((f.format.readRules text).mapError f.refusal) :=
  rfl

/-! ### One call -/

/-- Loading reads the folder and leaves it as it is. -/
theorem on_loading (f : RuleFile) (d : Folder) :
    f.loading.on d =
      ((((d.readText f.path).mapError .file).bind f.format.readRules).mapError f.refusal, d) := by
  rw [loading, Folder.Action.on_bind, Folder.Action.on_look]
  cases d.readText f.path <;> rfl

/-- Rules without a text are not saved. -/
theorem on_saving_of_error {f : RuleFile} {rules : List Rule} {fault : DocumentFault}
    (h : f.format.writeRules rules = .error fault) (d : Folder) :
    (f.saving rules).on d = (.error (f.refusal fault), d) := by
  rw [saving, Folder.Action.on_bind, Folder.Action.on_lift, h]
  rfl

/-- Rules with a text are saved if it can be written. -/
theorem on_saving_of_ok {f : RuleFile} {rules : List Rule} {text : String}
    (h : f.format.writeRules rules = .ok text) (d : Folder) :
    (f.saving rules).on d =
      match d.writeText f.path text with
      | .ok changed => (.ok (), changed)
      | .error fault => (.error (f.notWritten fault), d) := by
  rw [saving, Folder.Action.on_bind, Folder.Action.on_lift, h]
  show (Folder.Action.change _).on d = _
  rw [Folder.Action.on_change]
  cases d.writeText f.path text <;> rfl

/-- A save that fails changes nothing, whatever keeps it from its end. -/
theorem on_saving_eq_self_of_error {f : RuleFile} {rules : List Rule} {d : Folder} {fault : Fault}
    (h : ((f.saving rules).on d).1 = .error fault) : ((f.saving rules).on d).2 = d := by
  -- the rules may have no text, or the text may not be written
  cases hrules : f.format.writeRules rules with
  | error fault' => rw [on_saving_of_error hrules]
  | ok text =>
    rw [on_saving_of_ok hrules] at h ⊢
    cases hwrite : d.writeText f.path text with
    | error fault' => rfl
    | ok changed =>
      rw [hwrite] at h
      exact nomatch h

section Session

variable (f : RuleFile) {d : Folder} {name : String} (hname : d.fileName f.path = .ok name)

include hname

/-- What one call answers and leaves behind. -/
theorem run_call (c : Call) :
    (f.call c).run d =
      (f.answerTo (d.readText f.path) c,
        (f.written? c).elim d fun text => d.put name text.toUTF8) := by
  cases c with
  | load =>
    show (Answer.loaded (f.loading.on d).1, (f.loading.on d).2) = _
    rw [on_loading]
    rfl
  | save rules =>
    show (Answer.saved ((f.saving rules).on d).1, ((f.saving rules).on d).2) = _
    -- a save writes the text of its rules, and answers with what keeps it from that
    cases hrules : f.format.writeRules rules with
    | error fault =>
      rw [on_saving_of_error hrules, answerTo, written?, hrules]
      rfl
    | ok text =>
      rw [on_saving_of_ok hrules, Folder.writeText_of_fileName hname, answerTo, written?, hrules]
      rfl

end Session

/-! ### Any number of calls -/

/-- Later calls find the folder as earlier ones have left it. -/
theorem run_session_append (f : RuleFile) (before after : List Call) (d : Folder) :
    (f.session (before ++ after)).run d =
      (((f.session before).run d).1 ++
          ((f.session after).run ((f.session before).run d).2).1,
        ((f.session after).run ((f.session before).run d).2).2) := by
  rw [session, List.mapM_append]
  rfl

/-- The first call is made on the folder as it is, and the others on what it leaves behind. -/
theorem run_session_cons (f : RuleFile) (c : Call) (calls : List Call) (d : Folder) :
    (f.session (c :: calls)).run d =
      (((f.call c).run d).1 :: ((f.session calls).run ((f.call c).run d).2).1,
        ((f.session calls).run ((f.call c).run d).2).2) := by
  rw [session, List.mapM_cons]
  rfl

/-- Every call is answered. -/
theorem length_fst_run_session (f : RuleFile) (calls : List Call) (d : Folder) :
    ((f.session calls).run d).1.length = calls.length := by
  -- the folder changes from call to call, so the induction is for all folders
  induction calls generalizing d with
  | nil => rfl
  | cons c calls ih => rw [run_session_cons, List.length_cons, ih, List.length_cons]

/-- A further call writes the last text, or leaves the one before. -/
theorem lastWritten?_concat (f : RuleFile) (calls : List Call) (c : Call) :
    f.lastWritten? (calls ++ [c]) = (f.written? c).or (f.lastWritten? calls) := by
  rw [lastWritten?, List.filterMap_append, List.getLast?_append, lastWritten?]
  cases h : f.written? c <;> simp [h]

section Session

variable (f : RuleFile) {d : Folder} {name : String} (hname : d.fileName f.path = .ok name)

include hname

/-- Writing a text to the file does not lead its path astray. -/
theorem fileName_written (text? : Option String) :
    (text?.elim d fun text => d.put name text.toUTF8).fileName f.path = .ok name := by
  -- the name of the file was found before, and stays where it is
  cases text? with
  | none => exact hname
  | some text => exact Folder.fileName_put hname name _

/-- The folder after calls is the one before but for the text that was written last. -/
theorem snd_run_session (calls : List Call) :
    ((f.session calls).run d).2 =
      (f.lastWritten? calls).elim d fun text => d.put name text.toUTF8 := by
  -- from the last call backwards, as the last text that is written counts
  induction calls using List.reverseRecOn with
  | nil => rfl
  | append_singleton calls c ih =>
    have hkept : ((f.session calls).run d).2.fileName f.path = .ok name :=
      ih ▸ f.fileName_written hname _
    rw [run_session_append, run_session_cons, f.run_call hkept, ih, lastWritten?_concat]
    -- what this call writes replaces what was there before
    cases f.written? c with
    | none => rfl
    | some text =>
      cases f.lastWritten? calls with
      | none => rfl
      | some earlier => exact Folder.put_put d name _ _

/-- What there is to read after calls is the text that was written last. -/
theorem readText_snd_run_session (calls : List Call) :
    ((f.session calls).run d).2.readText f.path = f.heldAfter d calls := by
  rw [f.snd_run_session hname, heldAfter]
  -- either nothing was written, or it can be read at the same path
  cases f.lastWritten? calls with
  | none => rfl
  | some text => exact Folder.readText_put hname text

/-- A call is answered by what was written last before it. -/
theorem getElem?_fst_run_session (before : List Call) (c : Call) (after : List Call) :
    ((f.session (before ++ c :: after)).run d).1[before.length]? =
      some (f.answerTo (f.heldAfter d before) c) := by
  have hkept : ((f.session before).run d).2.fileName f.path = .ok name :=
    f.snd_run_session hname before ▸ f.fileName_written hname _
  -- the answers before this one are as many as the calls before it
  have hlength : ((f.session before).run d).1.length = before.length :=
    f.length_fst_run_session before d
  rw [run_session_append, run_session_cons, f.run_call hkept, f.readText_snd_run_session hname,
    List.getElem?_append_right (Nat.le_of_eq hlength), hlength, Nat.sub_self,
    List.getElem?_cons_zero]

/-- A save fails exactly if there is null in the rules and no null in the format. -/
theorem fst_on_saving_eq_error_iff {rules : List Rule} {fault : Fault} :
    ((f.saving rules).on d).1 = .error fault ↔
      fault = f.refusal .toml ∧ f.format = .toml ∧
        ∃ rule ∈ rules, rule.check.configuration.HoldsNull := by
  cases hrules : f.format.writeRules rules with
  | error cause =>
    obtain ⟨hformat, rfl, hnull⟩ := DocumentFormat.writeRules_eq_error_iff.mp hrules
    rw [on_saving_of_error hrules, Except.error.injEq, eq_comm]
    exact (and_iff_left ⟨hformat, hnull⟩).symm
  | ok text =>
    rw [on_saving_of_ok hrules, Folder.writeText_of_fileName hname]
    -- a text can be written to the file, so only the rules can fail
    refine iff_of_false nofun fun h => ?_
    have herror : f.format.writeRules rules = .error .toml :=
      DocumentFormat.writeRules_eq_error_iff.mpr ⟨h.2.1, rfl, h.2.2⟩
    exact nomatch hrules.symm.trans herror

/-- Rule files keep what was written last.  Any number of calls leave the folder as it was, but for
    the text that was written last.  Every call is answered by what was written last before it.
    Only rules with null are not saved, in a format without null; a save that fails leaves any
    folder as it was, and so does every load. -/
theorem session_loses_nothing (calls : List Call) :
    ((f.session calls).run d).2 =
      ((f.lastWritten? calls).elim d fun text => d.put name text.toUTF8) ∧
    ((f.session calls).run d).1.length = calls.length ∧
    (∀ before c after, calls = before ++ c :: after →
      ((f.session calls).run d).1[before.length]? =
        some (f.answerTo (f.heldAfter d before) c)) ∧
    (∀ rules fault, ((f.saving rules).on d).1 = .error fault ↔
      fault = f.refusal .toml ∧ f.format = .toml ∧
        ∃ rule ∈ rules, rule.check.configuration.HoldsNull) ∧
    (∀ rules (d' : Folder) fault, ((f.saving rules).on d').1 = .error fault →
      ((f.saving rules).on d').2 = d') ∧
    ∀ d', (f.loading.on d').2 = d' := by
  refine ⟨f.snd_run_session hname calls, f.length_fst_run_session calls d, ?_,
    fun rules fault => f.fst_on_saving_eq_error_iff hname,
    fun rules d' fault => on_saving_eq_self_of_error, fun d' => by rw [on_loading]⟩
  rintro before c after rfl
  exact f.getElem?_fst_run_session hname before c after

end Session

private def storedFile : RuleFile := ⟨"rules.toml", .toml⟩

private def storedRule : Rule :=
  { id := "code", name := "Code", check := .unknown "checksum" (.object [("digits", .integer 4)]) }

/-- There is no TOML text of this rule. -/
private def nullRule : Rule :=
  { storedRule with check := .unknown "checksum" (.object [("digits", .null)]) }

private def storedText : String :=
  "[[rules]]\nid = \"code\"\nname = \"Code\"\nruleType = \"checksum\"\nseverity = \"error\"\n" ++
    "enabled = true\n\n[rules.target]\nfield = \"*\"\n\n[rules.configuration]\ndigits = 4\n"

/-- A file is missing at first, is created by a save, and outlives one that fails. -/
theorem session_storedFile :
    Folder.empty.fileName storedFile.path = .ok "rules.toml" ∧
    (let calls := [.load, .save [storedRule], .save [nullRule], .load]
     ((storedFile.session calls).run .empty).2 =
       Folder.empty.put "rules.toml" storedText.toUTF8 ∧
     ((storedFile.session calls).run .empty).1[0]? =
       some (.loaded (.error (storedFile.refusal (.file .missing)))) ∧
     ((storedFile.session calls).run .empty).1[3]? = some (.loaded (.ok [storedRule]))) ∧
    ((storedFile.saving [nullRule]).on .empty).1 = .error (storedFile.refusal .toml) := by
  have hname : Folder.empty.fileName storedFile.path = .ok "rules.toml" := rfl
  -- the rules with null have no text, so the text of the save before stays the last
  have hbefore : storedFile.lastWritten? [.load, .save [storedRule], .save [nullRule]] =
      some storedText := by
    decide +kernel
  have hwritten : storedFile.lastWritten? [.load, .save [storedRule], .save [nullRule], .load] =
      some storedText :=
    (storedFile.lastWritten?_concat [.load, .save [storedRule], .save [nullRule]] .load).trans
      hbefore
  have hread : storedFile.format.readRules storedText = .ok [storedRule] :=
    Except.toOption_eq_some.mp (by decide +kernel)
  obtain ⟨hfolder, -, hanswers, hsaving, -, -⟩ := storedFile.session_loses_nothing hname
    [.load, .save [storedRule], .save [nullRule], .load]
  refine ⟨hname, ⟨?_, ?_, ?_⟩, ?_⟩
  · rw [hfolder, hwritten]
    rfl
  · exact hanswers [] .load _ rfl
  · refine (hanswers [.load, .save [storedRule], .save [nullRule]] .load [] rfl).trans ?_
    rw [heldAfter, hbefore, Option.elim_some, answerTo_load_ok, hread]
    rfl
  · have hnull : nullRule.check.configuration.HoldsNull := .member List.mem_cons_self .null
    exact (hsaving _ _).mpr ⟨rfl, rfl, nullRule, List.mem_cons_self, hnull⟩

end RecordRules.RuleFile
