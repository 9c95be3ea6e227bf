import MakerSdk.Base.Runs
import MakerSdk.Session.Loop

namespace MakerSdk.Session

open Base

namespace WriterCommand

def lane : WriterCommand → Lane
  | frame message _ _ => message.lane
  | pong _ | close | stop => .control

def done : WriterCommand → Option WriteResult
  | frame _ done _ => done
  | _ => none

def isFarewell : WriterCommand → Bool
  | close | stop => true
  | frame _ _ _ | pong _ => false

end WriterCommand

namespace WriterProgress

def unwritten : WriterProgress → List WriterCommand
  | writing command => [command]
  | _ => []

def untold : WriterProgress → List WriteResult
  | written command => command.done.toList
  | _ => []

end WriterProgress

inductive LanesEvent where
  | enqueued (command : WriterCommand)
  | taken (command : WriterCommand)
  | effect (effect : WriterEffect)

namespace LanesEvent

@[simp]
def enqueue? : LanesEvent → Option WriterCommand
  | enqueued command => some command
  | _ => none

@[simp]
def take? : LanesEvent → Option WriterCommand
  | taken command => some command
  | _ => none

@[simp]
def write? : LanesEvent → Option WriterCommand
  | effect (.wrote command) => some command
  | _ => none

@[simp]
def told? : LanesEvent → Option WriteResult
  | effect (.result done (.ok _)) => some done
  | _ => none

def isLast : LanesEvent → Bool
  | effect (.failed _) => true
  | taken command => command.isFarewell
  | _ => false

end LanesEvent

def onLane (lane : Lane) (commands : List WriterCommand) : List WriterCommand :=
  commands.filter (fun command ↦ command.lane = lane)

/-- A writer task with its lanes, and what was put into them and done with it so far. -/
structure Lanes where
  writer : Writer
  log : List LanesEvent

/-- `release` is the end of the session, by `close`, `stop` or just by dropping the lanes. -/
inductive LanesOp where
  | frame (message : PreparedClientMessage) (done : Option WriteResult) (written : Option ℕ)
  | pong (payload : List UInt8)
  | release (command : Option WriterCommand)
  | task (op : WriterOp)

namespace Writer

def picked (writer : Writer) : WriterOp → Option WriterCommand
  | .next => (writer.control ++ writer.data).head?
  | _ => none

end Writer

namespace Lanes

def spawn (epoch capacity : ℕ) : Lanes := ⟨Writer.spawn epoch capacity, []⟩

def enqueue (s : Lanes) (command : WriterCommand) : Lanes :=
  match s.writer.enqueue command.lane command with
  | .ok writer => ⟨writer, s.log ++ [.enqueued command]⟩
  | .error _ => s

def step (s : Lanes) : LanesOp → Option Lanes
  | .frame message done written =>
    if s.writer.lanesOpen then some (s.enqueue (.frame message done written)) else none
  | .pong payload => if s.writer.lanesOpen then some (s.enqueue (.pong payload)) else none
  | .release command =>
    if s.writer.lanesOpen ∧ command.all WriterCommand.isFarewell then
      let last := command.elim s s.enqueue
      some { last with writer := { last.writer with lanesOpen := false } }
    else none
  | .task op =>
    (s.writer.step op).map fun next ↦
      ⟨next.1, s.log ++ ((s.writer.picked op).toList.map .taken ++ next.2.map .effect)⟩

section Logs

theorem filterMap_singleton {α β : Type} (f : α → Option β) (a : α) :
    [a].filterMap f = (f a).toList := by
  cases h : f a <;> simp [h]

variable {log log' : List LanesEvent} {event : LanesEvent}

def accepted (log : List LanesEvent) : List WriterCommand := log.filterMap LanesEvent.enqueue?
def taken (log : List LanesEvent) : List WriterCommand := log.filterMap LanesEvent.take?
def wrote (log : List LanesEvent) : List WriterCommand := log.filterMap LanesEvent.write?
def told (log : List LanesEvent) : List WriteResult := log.filterMap LanesEvent.told?

@[simp]
theorem accepted_append : accepted (log ++ log') = accepted log ++ accepted log' :=
  List.filterMap_append

@[simp]
theorem taken_append : taken (log ++ log') = taken log ++ taken log' := List.filterMap_append

@[simp]
theorem wrote_append : wrote (log ++ log') = wrote log ++ wrote log' := List.filterMap_append

@[simp]
theorem told_append : told (log ++ log') = told log ++ told log' := List.filterMap_append

@[simp]
theorem accepted_singleton : accepted [event] = event.enqueue?.toList := filterMap_singleton _ _

@[simp]
theorem taken_singleton : taken [event] = event.take?.toList := filterMap_singleton _ _

@[simp]
theorem wrote_singleton : wrote [event] = event.write?.toList := filterMap_singleton _ _

@[simp]
theorem told_singleton : told [event] = event.told?.toList := filterMap_singleton _ _

@[simp]
theorem taken_effects {effects : List WriterEffect} : taken (effects.map .effect) = [] := by
  simp [taken, List.filterMap_map, Function.comp_def]

end Logs

structure Ending (entries : List LanesEvent) : Prop where
  accepted : accepted entries = []
  wrote : wrote entries = []
  told : told entries = []
  taken : ∀ command ∈ taken entries, command.isFarewell = true

inductive Moves : Lanes → Lanes → Prop where
  | refuse (s : Lanes) : Moves s s
  | leave {s t : Lanes} (h : Moves s t) :
    Moves s { t with writer := { t.writer with lanesOpen := false } }
  | enqueue {s : Lanes} {command : WriterCommand} {writer : Writer}
      (h : s.writer.enqueue command.lane command = .ok writer) :
    Moves s ⟨writer, s.log ++ [.enqueued command]⟩
  | takeControl {s : Lanes} {command : WriterCommand} {control : List WriterCommand}
      (hp : s.writer.progress = .selecting) (hc : s.writer.control = command :: control)
      (h : command.isFarewell = false) :
    Moves s ⟨{ s.writer with control, progress := .writing command }, s.log ++ [.taken command]⟩
  | takeData {s : Lanes} {command : WriterCommand} {data : List WriterCommand}
      (hp : s.writer.progress = .selecting) (hc : s.writer.control = [])
      (hd : s.writer.data = command :: data) (h : command.isFarewell = false) :
    Moves s ⟨{ s.writer with control := [], data, progress := .writing command },
      s.log ++ [.taken command]⟩
  | write {s : Lanes} {command : WriterCommand} (hp : s.writer.progress = .writing command) :
    Moves s ⟨{ s.writer with progress := .written command },
      s.log ++ [.effect (.wrote command)]⟩
  | report {s : Lanes} {command : WriterCommand} (hp : s.writer.progress = .written command) :
    Moves s ⟨{ s.writer with progress := .selecting },
      s.log ++ command.receipts.map .effect⟩
  | finish {s : Lanes} {writer : Writer} {entries : List LanesEvent}
      (hp : s.writer.progress ≠ .returned) (hw : writer = s.writer.finish.1)
      (h : Ending entries) (ht : taken entries <+: s.writer.control ++ s.writer.data) :
    Moves s ⟨writer, s.log ++ entries⟩

section Endings

variable {command : WriterCommand} {effects : List WriterEffect} {entries : List LanesEvent}

theorem Ending.append {rest : List LanesEvent} (h : Ending entries) (hr : Ending rest) :
    Ending (entries ++ rest) where
  accepted := by simp [h.accepted, hr.accepted]
  wrote := by simp [h.wrote, hr.wrote]
  told := by simp [h.told, hr.told]
  taken := by
    intro command hc
    rw [taken_append] at hc
    exact (List.mem_append.mp hc).elim (h.taken command) (hr.taken command)

theorem ending_drop (command : WriterCommand) : Ending (command.drop.map .effect) := by
  rcases command with ⟨message, _ | done, _ | ticket⟩ | _ | _ | _ <;>
    exact ⟨rfl, rfl, rfl, fun _ h ↦ by cases h⟩

theorem ending_failure (command : WriterCommand) (error : ManagedWsError) :
    Ending ((command.failure error).map .effect) := by
  rcases command with ⟨message, _ | done, _ | ticket⟩ | _ | _ | _ <;>
    exact ⟨rfl, rfl, rfl, fun _ h ↦ by cases h⟩

theorem ending_drops (commands : List WriterCommand) :
    Ending ((commands.flatMap WriterCommand.drop).map .effect) := by
  induction commands with
  | nil => exact ⟨rfl, rfl, rfl, fun _ h ↦ by cases h⟩
  | cons command commands ih =>
    rw [List.flatMap_cons, List.map_append]
    exact (ending_drop command).append ih

theorem ending_taken (h : command.isFarewell = true) : Ending [.taken command] where
  accepted := rfl
  wrote := rfl
  told := rfl
  taken := by
    intro c hc
    rwa [List.mem_singleton.mp hc]

end Endings

section Inversion

variable {s t : Lanes}

theorem enqueue_moves (s : Lanes) (command : WriterCommand) : Moves s (s.enqueue command) := by
  unfold enqueue
  split
  · rename_i writer h
    exact .enqueue h
  · exact .refuse s

theorem next_moves (h : s.step (.task .next) = some t) : Moves s t := by
  obtain ⟨⟨writer, effects⟩, hstep, rfl⟩ := Option.map_eq_some_iff.mp h
  cases hp : s.writer.progress with
  | selecting =>
    have hr : s.writer.progress ≠ .returned := fun h ↦ by cases hp.symm.trans h
    cases hc : s.writer.control with
    | cons command control =>
      simp only [Writer.step, hp, hc, Option.some.injEq] at hstep
      simp only [Writer.picked, hc, List.cons_append, List.head?_cons]
      cases command with
      | close | stop =>
        cases hstep
        refine .finish hr rfl ((ending_taken rfl).append (ending_drops _)) ?_
        rw [taken_append, taken_effects, hc]
        simp
      | frame | pong =>
        cases hstep
        exact .takeControl hp hc rfl
    | nil =>
      cases hd : s.writer.data with
      | cons command data =>
        simp only [Writer.step, hp, hc, hd, Option.some.injEq] at hstep
        simp only [Writer.picked, hc, hd, List.nil_append, List.head?_cons]
        cases command with
        | close | stop =>
          cases hstep
          refine .finish hr rfl ((ending_taken rfl).append (ending_drops _)) ?_
          rw [taken_append, taken_effects, hc, hd]
          simp
        | frame | pong =>
          cases hstep
          exact .takeData hp hc hd rfl
      | nil =>
        simp only [Writer.step, hp, hc, hd] at hstep
        simp only [Writer.picked, hc, hd, List.nil_append, List.head?_nil]
        split at hstep
        · cases hstep
        · cases hstep
          exact .finish hr rfl (ending_drops _) (by simp)
  | writing | written | returned => simp [Writer.step, hp] at hstep

theorem task_moves {op : WriterOp} (h : s.step (.task op) = some t) : Moves s t := by
  cases op with
  | next => exact next_moves h
  | flush =>
    obtain ⟨⟨writer, effects⟩, hstep, rfl⟩ := Option.map_eq_some_iff.mp h
    simp only [Writer.step] at hstep
    split at hstep
    · rename_i command hp
      cases hstep
      exact .write hp
    · cases hstep
  | fail timedOut =>
    obtain ⟨⟨writer, effects⟩, hstep, rfl⟩ := Option.map_eq_some_iff.mp h
    simp only [Writer.step] at hstep
    split at hstep
    · rename_i command hp
      cases hstep
      refine .finish (fun h ↦ by cases hp.symm.trans h) rfl ?_ (by simp [Writer.picked])
      rw [List.map_append]
      exact (ending_failure _ _).append (ending_drops _)
    · cases hstep
  | report =>
    obtain ⟨⟨writer, effects⟩, hstep, rfl⟩ := Option.map_eq_some_iff.mp h
    simp only [Writer.step] at hstep
    split at hstep
    · rename_i command hp
      cases hstep
      exact .report hp
    · cases hstep
  | abort =>
    obtain ⟨⟨writer, effects⟩, hstep, rfl⟩ := Option.map_eq_some_iff.mp h
    have hdrop : ∀ command : WriterCommand,
        Ending ((command.drop ++ s.writer.finish.2).map .effect) := by
      intro command
      rw [List.map_append]
      exact (ending_drop command).append (ending_drops _)
    cases hp : s.writer.progress with
    | selecting =>
      simp only [Writer.step, hp, Option.some.injEq] at hstep
      cases hstep
      exact .finish (fun h ↦ by cases hp.symm.trans h) rfl (ending_drops _)
        (by simp [Writer.picked])
    | writing command | written command =>
      simp only [Writer.step, hp, Option.some.injEq] at hstep
      cases hstep
      exact .finish (fun h ↦ by cases hp.symm.trans h) rfl (hdrop command) (by simp [Writer.picked])
    | returned => simp [Writer.step, hp] at hstep

theorem step_moves {op : LanesOp} (h : s.step op = some t) : Moves s t := by
  cases op with
  | frame | pong =>
    simp only [step] at h
    split at h
    · cases h
      exact enqueue_moves s _
    · cases h
  | release command =>
    simp only [step] at h
    split at h
    · cases h
      cases command with
      | none => exact .leave (.refuse s)
      | some command => exact .leave (enqueue_moves s command)
    · cases h
  | task op => exact task_moves h

end Inversion

/-- The condition an entry meets at its place in the log: a data command is taken when no control
command waits, and a write happens before any failure or farewell. -/
def Fits (before : List LanesEvent) : LanesEvent → Prop
  | .taken command => command.lane = .data →
    onLane .control (accepted before) = onLane .control (taken before)
  | .effect (.wrote _) => ∀ event ∈ before, event.isLast = false
  | _ => True

/-- What a running writer keeps: a command waits on its own lane or was taken off it, and every
sender of a written frame but the last has been told. -/
structure Running (s : Lanes) : Prop where
  control : ∀ command ∈ s.writer.control, command.lane = .control
  data : ∀ command ∈ s.writer.data, command.lane = .data
  lanes : ∀ lane, onLane lane (accepted s.log) =
    onLane lane (taken s.log) ++ onLane lane (s.writer.control ++ s.writer.data)
  wire : taken s.log = wrote s.log ++ s.writer.progress.unwritten
  senders : (wrote s.log).filterMap WriterCommand.done = told s.log ++ s.writer.progress.untold
  going : ∀ event ∈ s.log, event.isLast = false

structure Kept (s : Lanes) : Prop where
  running : s.writer.progress ≠ .returned → s.Running
  lanes : ∀ lane, onLane lane (taken s.log) <+: onLane lane (accepted s.log)
  wire : wrote s.log <+: taken s.log
  senders : told s.log <+: (wrote s.log).filterMap WriterCommand.done
  fits : Runs.Justified Fits s.log

section Invariant

variable {s t : Lanes}

theorem onLane_append {lane : Lane} {commands commands' : List WriterCommand} :
    onLane lane (commands ++ commands') = onLane lane commands ++ onLane lane commands' :=
  List.filter_append ..

theorem Running.kept (h : s.Running) (hf : Runs.Justified Fits s.log) : s.Kept where
  running _ := h
  lanes lane := by
    rw [h.lanes]
    exact List.prefix_append _ _
  wire := by
    rw [h.wire]
    exact List.prefix_append _ _
  senders := by
    rw [h.senders]
    exact List.prefix_append _ _
  fits := hf

theorem kept_spawn (epoch capacity : ℕ) : (spawn epoch capacity).Kept := by
  refine Running.kept ⟨?_, ?_, fun _ ↦ rfl, rfl, rfl, ?_⟩ Runs.justified_nil
  all_goals
    intro _ h
    cases h

theorem onLane_other {lane other : Lane} {commands : List WriterCommand}
    (h : ∀ command ∈ commands, command.lane = other) (hne : other ≠ lane) :
    onLane lane commands = [] := by
  refine List.filter_eq_nil_iff.mpr fun command hc ↦ ?_
  rw [h command hc]
  simpa using hne

variable {command : WriterCommand}

theorem onLane_comm {lane : Lane} {data : List WriterCommand} (hc : command.lane = .control)
    (hd : ∀ command ∈ data, command.lane = .data) :
    onLane lane (command :: data) = onLane lane data ++ onLane lane [command] := by
  cases lane with
  | control =>
    rw [← List.singleton_append, onLane_append, onLane_other hd (by decide), List.append_nil,
      List.nil_append]
  | data => simp [onLane, hc]

theorem going_concat {log : List LanesEvent} {next : LanesEvent}
    (h : ∀ event ∈ log, event.isLast = false) (hnext : next.isLast = false) :
    ∀ event ∈ log ++ [next], event.isLast = false := by
  intro event hmem
  rcases List.mem_append.mp hmem with hmem | hmem
  · exact h event hmem
  · cases List.mem_singleton.mp hmem
    exact hnext

theorem Running.enqueue {writer : Writer} (h : s.Running)
    (he : s.writer.enqueue command.lane command = .ok writer) :
    Running ⟨writer, s.log ++ [.enqueued command]⟩ := by
  have hlanes : ∀ lane, onLane lane (accepted s.log) = onLane lane (taken s.log) ++
      (onLane lane s.writer.control ++ onLane lane s.writer.data) := by
    intro lane
    rw [h.lanes, onLane_append]
  obtain ⟨-, ⟨hlane, rfl⟩ | ⟨hlane, rfl⟩⟩ := Writer.enqueue_cases he
  · refine ⟨?_, h.data, fun lane ↦ ?_, ?_, ?_, going_concat h.going rfl⟩
    · simpa [or_imp, forall_and, hlane] using h.control
    · simp [onLane_append, hlanes, onLane_comm hlane h.data]
    · simpa using h.wire
    · simpa using h.senders
  · refine ⟨h.control, ?_, fun lane ↦ ?_, ?_, ?_, going_concat h.going rfl⟩
    · simpa [or_imp, forall_and, hlane] using h.data
    · simp [onLane_append, hlanes]
    · simpa using h.wire
    · simpa using h.senders

theorem Running.take {control data : List WriterCommand} (h : s.Running)
    (hp : s.writer.progress = .selecting)
    (hq : s.writer.control ++ s.writer.data = command :: (control ++ data))
    (hcontrol : control ⊆ s.writer.control) (hdata : data ⊆ s.writer.data)
    (hfarewell : command.isFarewell = false) :
    Running ⟨{ s.writer with control, data, progress := .writing command },
      s.log ++ [.taken command]⟩ where
  control c hc := h.control c (hcontrol hc)
  data c hc := h.data c (hdata hc)
  lanes lane := by
    have hl := h.lanes lane
    rw [hq, ← List.singleton_append, onLane_append] at hl
    simpa [onLane_append] using hl
  wire := by simpa [hp, WriterProgress.unwritten] using h.wire
  senders := by simpa [hp, WriterProgress.untold] using h.senders
  going := going_concat h.going hfarewell

theorem Running.write (h : s.Running) (hp : s.writer.progress = .writing command) :
    Running ⟨{ s.writer with progress := .written command },
      s.log ++ [.effect (.wrote command)]⟩ where
  control := h.control
  data := h.data
  lanes lane := by simpa using h.lanes lane
  wire := by simpa [hp, WriterProgress.unwritten] using h.wire
  senders := by
    have hs := h.senders
    rw [hp] at hs
    cases hd : command.done <;>
      simpa [WriterProgress.untold, List.filterMap_cons, hd] using hs
  going := going_concat h.going rfl

theorem receipts_log (command : WriterCommand) :
    accepted (command.receipts.map .effect) = [] ∧ wrote (command.receipts.map .effect) = [] ∧
      told (command.receipts.map .effect) = command.done.toList ∧
        ∀ event ∈ command.receipts.map LanesEvent.effect, event.isLast = false ∧
          ∀ before, Fits before event := by
  rcases command with ⟨message, _ | done, _ | ticket⟩ | _ | _ | _ <;>
    refine ⟨rfl, rfl, rfl, ?_⟩ <;> simp [WriterCommand.receipts, LanesEvent.isLast, Fits]

theorem Running.report (h : s.Running) (hp : s.writer.progress = .written command) :
    Running ⟨{ s.writer with progress := .selecting },
      s.log ++ command.receipts.map .effect⟩ := by
  obtain ⟨hacc, hwrote, htold, hlast⟩ := receipts_log command
  refine ⟨h.control, h.data, fun lane ↦ ?_, ?_, ?_, fun event he ↦ ?_⟩
  · simpa [hacc] using h.lanes lane
  · simpa [hp, hwrote, WriterProgress.unwritten] using h.wire
  · simpa [hp, hwrote, htold, WriterProgress.untold] using h.senders
  · exact (List.mem_append.mp he).elim (h.going event) (fun he ↦ (hlast event he).1)

theorem Kept.finish {writer : Writer} {entries : List LanesEvent} (h : s.Kept)
    (hp : s.writer.progress ≠ .returned) (hw : writer = s.writer.finish.1) (he : Ending entries)
    (ht : taken entries <+: s.writer.control ++ s.writer.data) :
    Kept ⟨writer, s.log ++ entries⟩ where
  running hr := absurd (by rw [hw]; rfl) hr
  lanes lane := by
    rw [accepted_append, taken_append, he.accepted, List.append_nil, onLane_append,
      (h.running hp).lanes]
    exact (List.prefix_append_right_inj _).mpr (ht.filter _)
  wire := by
    rw [wrote_append, taken_append, he.wrote, List.append_nil]
    exact h.wire.trans (List.prefix_append _ _)
  senders := by
    rw [wrote_append, told_append, he.wrote, he.told, List.append_nil, List.append_nil]
    exact h.senders
  fits := by
    refine h.fits.append fun event hmem before ↦ ?_
    cases event with
    | enqueued => trivial
    | taken command =>
      have hfarewell := he.taken command (List.mem_filterMap.mpr ⟨_, hmem, rfl⟩)
      intro hdata
      cases command <;> simp [WriterCommand.isFarewell, WriterCommand.lane] at hfarewell hdata
    | effect effect =>
      cases effect with
      | wrote command =>
        have hwrote : command ∈ wrote entries := List.mem_filterMap.mpr ⟨_, hmem, rfl⟩
        rw [he.wrote] at hwrote
        cases hwrote
      | failed | result | receipt | dropResult | dropReceipt => trivial

theorem Kept.moves (h : s.Kept) (hm : Moves s t) : t.Kept := by
  induction hm with
  | refuse => exact h
  | leave _ ih =>
    refine ⟨fun hp ↦ ?_, ih.lanes, ih.wire, ih.senders, ih.fits⟩
    have hr := ih.running hp
    exact ⟨hr.control, hr.data, hr.lanes, hr.wire, hr.senders, hr.going⟩
  | enqueue he =>
    have hr := h.running (Writer.enqueue_cases he).1
    exact (hr.enqueue he).kept (Runs.justified_concat.mpr ⟨h.fits, trivial⟩)
  | takeControl hp hc hfarewell =>
    have hr := h.running (fun h ↦ by cases hp.symm.trans h)
    refine (hr.take hp (by rw [hc]; rfl) (by simp [hc]) (fun _ h ↦ h) hfarewell).kept
      (Runs.justified_concat.mpr ⟨h.fits, fun hdata ↦ ?_⟩)
    cases hdata.symm.trans (hr.control _ (by simp [hc]))
  | takeData hp hc hd hfarewell =>
    have hr := h.running (fun h ↦ by cases hp.symm.trans h)
    refine (hr.take hp (by rw [hc, hd]; rfl) (List.nil_subset _) (by simp [hd]) hfarewell).kept
      (Runs.justified_concat.mpr ⟨h.fits, fun _ ↦ ?_⟩)
    rw [hr.lanes, hc, List.nil_append, onLane_other hr.data (by decide), List.append_nil]
  | write hp =>
    have hr := h.running (fun h ↦ by cases hp.symm.trans h)
    exact (hr.write hp).kept (Runs.justified_concat.mpr ⟨h.fits, hr.going⟩)
  | report hp =>
    have hr := h.running (fun h ↦ by cases hp.symm.trans h)
    refine (hr.report hp).kept (h.fits.append fun event he before ↦ ?_)
    exact ((receipts_log _).2.2.2 event he).2 _
  | finish hp hw he ht => exact h.finish hp hw he ht

theorem kept_run {epoch capacity : ℕ} {ops : List LanesOp}
    (h : Runs.run step (spawn epoch capacity) ops = some s) : s.Kept :=
  Runs.run_invariant (fun _ _ _ h hs ↦ h.moves (step_moves hs)) (kept_spawn epoch capacity) h

end Invariant

structure Honest (log : List LanesEvent) : Prop where
  data : onLane .data (wrote log) <+: onLane .data (accepted log)
  control : onLane .control (wrote log) <+: onLane .control (accepted log)
  controlFirst : ∀ before command after, log = before ++ .taken command :: after →
    command.lane = .data → onLane .control (taken before) = onLane .control (accepted before)
  told : told log <+: (wrote log).filterMap WriterCommand.done
  failed : ∀ before error after, log = before ++ .effect (.failed error) :: after →
    wrote after = []
  stopped : ∀ before command after, log = before ++ .taken command :: after →
    command.isFarewell = true → wrote after = []

theorem wrote_after {before after : List LanesEvent} {event : LanesEvent}
    (h : Runs.Justified Fits (before ++ event :: after)) (he : event.isLast = true) :
    wrote after = [] := by
  refine List.eq_nil_iff_forall_not_mem.mpr fun command hc ↦ ?_
  obtain ⟨later, hmem, hlater⟩ := List.mem_filterMap.mp hc
  have hwrote : later = .effect (.wrote command) := by
    rcases later with _ | _ | (_ | _ | _ | _ | _ | _) <;> cases hlater
    rfl
  obtain ⟨between, rest, rfl⟩ := List.append_of_mem hmem
  have hfits := h (before ++ event :: between) later rest (by simp)
  rw [hwrote] at hfits
  cases he.symm.trans (hfits event (by simp))

/-- Whatever is put into the lanes and however the writer fares, each lane keeps its order, control
commands go first, and whoever is told `Ok` had a frame written. -/
theorem lanes_honest {epoch capacity : ℕ} {ops : List LanesOp} {s : Lanes}
    (h : Runs.run step (spawn epoch capacity) ops = some s) : Honest s.log := by
  have hk := kept_run h
  have hlane : ∀ lane, onLane lane (wrote s.log) <+: onLane lane (accepted s.log) :=
    fun lane ↦ (hk.wire.filter _).trans (hk.lanes lane)
  refine ⟨hlane .data, hlane .control, fun before command after hlog hdata ↦ ?_, hk.senders,
    fun before error after hlog ↦ ?_, fun before command after hlog hfarewell ↦ ?_⟩
  · exact (hk.fits before _ after hlog hdata).symm
  · exact wrote_after (hlog ▸ hk.fits) rfl
  · have hlast : (LanesEvent.taken command).isLast = true := hfarewell
    exact wrote_after (hlog ▸ hk.fits) hlast

/-- A ping overtakes a queued request, whose caller is told once it is written; the write after
it fails and the last request never leaves its lane. -/
def overtaking : List LanesOp :=
  [.frame ⟨.getMarkets 5, 40, .data, none⟩ (some (.caller 1)) none,
    .frame ⟨.ping, 6, .control, none⟩ (some (.ping 0)) none, .task .next, .task .flush,
    .task .report, .task .next, .frame ⟨.getMarkets 6, 40, .data, none⟩ none none,
    .task .flush, .task .report, .pong [], .task .next, .task (.fail true)]

theorem lanes_honest_overtaking : ∃ s, Runs.run step (spawn 1 2) overtaking = some s ∧
    (wrote s.log).length = 2 ∧ (accepted s.log).length = 4 ∧ Honest s.log := by
  have hrun : (Runs.run step (spawn 1 2) overtaking).any (fun s ↦
      (wrote s.log).length = 2 ∧ (accepted s.log).length = 4) = true := by
    decide +kernel
  obtain ⟨s, hs, hcheck⟩ := (Option.any_eq_true _ _).mp hrun
  obtain ⟨hwrote, haccepted⟩ := of_decide_eq_true hcheck
  exact ⟨s, hs, hwrote, haccepted, lanes_honest hs⟩

end Lanes

end MakerSdk.Session
