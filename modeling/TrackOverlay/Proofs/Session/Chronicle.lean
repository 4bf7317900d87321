import TrackOverlay.Proofs.LogSetup
import TrackOverlay.Proofs.Session.Moves
import TrackOverlay.Session.Transcript

/-!
# Chronicle — what a session writes to its log

Which lines a request writes depends on the request, on its reply and on whether the session was
started before: `Reports` lists the cases, and `Chronicle` follows them along a run.  Every run is a
chronicle (`chronicle_run`), whatever level the log has, because nothing of a session is decided by
its log.

The level only chooses among the lines (`level_only_filters`): what is shown at a higher level is
what is shown at a lower one, without the lines that lie between the two.
-/

namespace TrackOverlay
namespace Session

variable {c : Canvas} {s : Session} {request : Request} {lines : List Log.Line}

/-! ## Lines of a request -/

/-- Whether a request groups the snapshots. -/
def Request.groups : Request → Bool
  | .process => true
  | .finalize => true
  | _ => false

/-- Whether a request never writes a line: it draws what is grouped already, or reads. -/
def Request.silent : Request → Bool
  | .collect _ => false
  | .reset => false
  | request => !request.groups

/-- The lines of a request to a session, by its reply. -/
inductive Reports (s : Session) : Request → Except Fault Reply → List Log.Line → Prop
  | reset (message : String) : Reports s .reset (.ok .done) [line Log.debug message]
  | collected (cycle : Cycle) (message : String) :
      Reports s (.collect cycle) (.ok .done) [line Log.debug message]
  | violated (cycle : Cycle) (v : Violation) :
      Reports s (.collect cycle) (.error (.violation v))
        [line Log.error ("Collect failed at t=" ++ timeText cycle.time ++ ": " ++ v.message)]
  | failed (cycle : Cycle) {fault : Fault} (hfault : ∀ v, fault ≠ .violation v) :
      Reports s (.collect cycle) (.error fault) []
  | grouped {request : Request} (hgroups : request.groups = true) (hstarted : s.started = true)
      (reply : Except Fault Reply) (message : String) :
      Reports s request reply [line Log.debug message]
  | unstarted {request : Request} (hgroups : request.groups = true)
      (hstarted : s.started = false) (reply : Except Fault Reply) : Reports s request reply []
  | silent {request : Request} (hsilent : request.silent = true) (reply : Except Fault Reply) :
      Reports s request reply []

theorem refusedLines_reports (s : Session) (cycle : Cycle) (fault : Fault) :
    Reports s (.collect cycle) (.error fault) (refusedLines cycle.time fault) := by
  cases fault with
  | violation v => exact .violated cycle v
  -- only violations are logged
  | _ =>
      refine .failed cycle ?_
      rintro v ⟨⟩

/-- Without its line a collection reports nothing. -/
theorem taken_reports (c : Canvas) (s : Session) (cycle : Cycle) (count : Nat) :
    Reports s (.collect cycle) ((collectedLine c cycle count).map fun _ => .done)
      (collectedLine c cycle count).toOption.toList := by
  unfold collectedLine
  cases Numeral.write c.digitLimit cycle.detections.channel with
  | error limit =>
      refine .failed cycle ?_
      rintro v ⟨⟩
  | ok channel => exact .collected cycle _

theorem collect_reports (c : Canvas) (s : Session) (cycle : Cycle) :
    Reports s (.collect cycle) (s.collect c cycle).reply (s.collect c cycle).lines := by
  cases houtcome : (cycle.collect c.channelCount).outcome with
  | ok taken =>
      rw [collect_of_taken houtcome]
      exact taken_reports c s cycle taken.length
  | error fault =>
      rw [collect_of_misfit houtcome]
      exact refusedLines_reports s cycle fault

theorem process_lines (s : Session) :
    s.process.lines = if s.started then
      [groupedLine s.snapshots.length (Snapshot.groups s.snapshots).length] else [] := by
  unfold process
  split
  · rfl
  · rfl

theorem render_lines (c : Canvas) (s : Session) : (s.render c).lines = [] := by
  unfold render
  split
  · cases c.draw s.groups with
    | error fault => rfl
    | ok scene => rfl
  · rfl

/-- A finalization writes the line of its grouping, even if its drawing is refused. -/
theorem finalize_lines (c : Canvas) (s : Session) : (s.finalize c).lines = s.process.lines := by
  rw [finalize, render_lines, List.append_nil]

theorem reports_of_groups (hgroups : request.groups = true) (reply : Except Fault Reply) :
    Reports s request reply s.process.lines := by
  rw [process_lines]
  cases hstarted : s.started with
  | true => exact .grouped hgroups hstarted reply _
  | false => exact .unstarted hgroups hstarted reply

theorem step_reports (c : Canvas) (s : Session) (request : Request) :
    Reports s request (s.step c request).reply (s.step c request).lines := by
  cases request with
  | collect cycle => exact collect_reports c s cycle
  | process => exact reports_of_groups rfl _
  | render =>
      rw [step, render_lines]
      exact .silent rfl _
  | finalize =>
      rw [step, finalize_lines]
      exact reports_of_groups rfl _
  | reset => exact .reset _
  | _ => exact .silent rfl _

/-- Lines that are reported have levels above zero, so a log can show them. -/
theorem Reports.level_pos {reply : Except Fault Reply} (h : Reports s request reply lines) :
    ∀ line ∈ lines, 0 < line.level := by
  cases h with
  | reset message => simp [line, Log.debug]
  | collected cycle message => simp [line, Log.debug]
  | violated cycle v => simp [line, Log.error]
  | failed cycle hfault => simp
  | grouped hgroups hstarted reply message => simp [line, Log.debug]
  | unstarted hgroups hstarted reply => simp
  | silent hsilent reply => simp

/-! ## Lines of a run -/

/-- The lines that the requests of a run report one after the other. -/
inductive Chronicle (c : Canvas) : Session → List Request → List (List Log.Line) → Prop
  | nil (s : Session) : Chronicle c s [] []
  | cons {s : Session} {request : Request} {rest : List Request} {lines : List Log.Line}
      {later : List (List Log.Line)} (hlines : Reports s request (s.step c request).reply lines)
      (hlater : Chronicle c (s.step c request).next rest later) :
      Chronicle c s (request :: rest) (lines :: later)

/-- The lines of a session from its opening on. -/
def trace (c : Canvas) (requests : List Request) : List (List Log.Line) :=
  [openingLine c] :: (run c {} requests).map Step.lines

theorem chronicle_run (c : Canvas) (s : Session) (requests : List Request) :
    Chronicle c s requests ((run c s requests).map Step.lines) := by
  induction requests generalizing s with
  | nil => exact .nil s
  | cons request rest ih => exact .cons (step_reports c s request) (ih _)

theorem Chronicle.level_pos {requests : List Request} {trace : List (List Log.Line)}
    (h : Chronicle c s requests trace) : ∀ lines ∈ trace, ∀ line ∈ lines, 0 < line.level := by
  induction h with
  | nil s => simp
  | cons hlines _ ih =>
      intro lines hmem
      rcases List.mem_cons.1 hmem with rfl | hmem
      · exact hlines.level_pos
      · exact ih lines hmem

theorem trace_level_pos (c : Canvas) (requests : List Request) :
    ∀ lines ∈ trace c requests, ∀ line ∈ lines, 0 < line.level := by
  intro lines hmem
  rcases List.mem_cons.1 hmem with rfl | hmem
  · simp [openingLine, line, Log.info]
  · exact (chronicle_run c {} requests).level_pos lines hmem

/-! ## Lines shown -/

/-- The texts that a transcript shows, from the opening on. -/
def Transcript.shown (t : Transcript) : List (List String) :=
  t.opening :: t.entries.map Entry.shown

/-- The lines of a trace that have at least a level. -/
def fromLevel (level : Int) (trace : List (List Log.Line)) : List (List Log.Line) :=
  trace.map fun lines => lines.filter fun line => level ≤ line.level

theorem fromLevel_fromLevel {low high : Int} (h : low ≤ high) (trace : List (List Log.Line)) :
    fromLevel high (fromLevel low trace) = fromLevel high trace := by
  have hline : ∀ line : Log.Line, (decide (high ≤ line.level) && decide (low ≤ line.level)) =
      decide (high ≤ line.level) := by
    intro line
    rw [Bool.and_eq_left_iff_imp]
    intro hhigh
    exact decide_eq_true (Int.le_trans h (of_decide_eq_true hhigh))
  simp only [fromLevel, List.map_map, Function.comp_def, List.filter_filter, hline]

/-- A transcript shows the lines of the session's trace, as its log shows them. -/
theorem transcript_shown (c : Canvas) (setup : Option Log.Setup) (requests : List Request) :
    (transcript c setup requests).shown =
      (trace c requests).map (Log.writeAll (openLog setup)) := by
  simp [Transcript.shown, transcript, trace, openingShown, Step.entry]

theorem shown_of_level (c : Canvas) {level : Int} (hlevel : level ≠ 0) (requests : List Request) :
    (transcript c (some (.ofOptions ⟨level, true⟩)) requests).shown =
      (fromLevel level (trace c requests)).map (List.map Log.Line.text) := by
  have hopen : openLog (some (.ofOptions ⟨level, true⟩)) = some (.ofOptions ⟨level, true⟩) :=
    Log.after_of_some _ _
  rw [transcript_shown, hopen, fromLevel, List.map_map]
  refine List.map_congr_left fun lines hlines => ?_
  exact Log.writeAll_ofOptions hlevel (trace_level_pos c requests lines hlines)

/-- Whatever a log is asked to be after its first set-up, that set-up stays. -/
theorem after_start (o : Log.Options) (more : List Log.Request) :
    Log.after none (.start o :: more) = some (.ofOptions o) :=
  Log.after_of_some _ more

/-- A session does not notice the level of its log: replies and states are the same at any level.  Of
the lines, which follow the requests case by case, a log shows those that have at least its level. -/
theorem level_only_filters (c : Canvas) (requests : List Request) {low high : Int}
    (hlow : low ≠ 0) (hhigh : high ≠ 0) (hle : low ≤ high) (moreLow moreHigh : List Log.Request) :
    let atLow := transcript c (Log.after none (.start ⟨low, true⟩ :: moreLow)) requests
    let atHigh := transcript c (Log.after none (.start ⟨high, true⟩ :: moreHigh)) requests
    let shownLow := fromLevel low (trace c requests)
    (atHigh.entries.map Entry.reply = atLow.entries.map Entry.reply ∧
        atHigh.entries.map Entry.next = atLow.entries.map Entry.next) ∧
      atLow.shown = shownLow.map (List.map Log.Line.text) ∧
      atHigh.shown = (fromLevel high shownLow).map (List.map Log.Line.text) ∧
      ∃ message steps, trace c requests = [line Log.info message] :: steps ∧
        Chronicle c {} requests steps := by
  intro atLow atHigh shownLow
  refine ⟨⟨?_, ?_⟩, ?_, ?_, ?_⟩
  -- both transcripts are made from one run, which has no log
  · simp [atLow, atHigh, transcript, Step.entry]
  · simp [atLow, atHigh, transcript, Step.entry]
  · simp only [atLow, after_start]
    exact shown_of_level c hlow requests
  · simp only [atHigh, shownLow, after_start, fromLevel_fromLevel hle]
    exact shown_of_level c hhigh requests
  · exact ⟨_, _, rfl, chronicle_run c {} requests⟩

/-- A collection that violates the configuration is all that is shown at the level of errors; one that
fails otherwise is shown at no level. -/
theorem level_only_filters_small :
    let misplaced := Tracker.stationary "2" [0.5] 0.5 (.ofNat 2) (.ofVector [1.0])
    let collect := fun tracker assigned => Request.collect (smallCycle [tracker] assigned)
    let requests := [.process, collect (smallTracker 1 0.5) (some 7), collect misplaced none,
      collect (smallTracker 1 0.5) none, .finalize, .render, .reset]
    let atLow := transcript smallCanvas
      (Log.after none [.start ⟨Log.debug, true⟩, .start ⟨Log.error, false⟩]) requests
    let atHigh := transcript smallCanvas (Log.after none [.start ⟨Log.error, true⟩]) requests
    (Log.debug ≠ 0 ∧ Log.error ≠ 0 ∧ Log.debug ≤ Log.error) ∧
      atHigh.entries.map Entry.next = atLow.entries.map Entry.next ∧
      atLow.shown =
        (fromLevel Log.debug (trace smallCanvas requests)).map (List.map Log.Line.text) ∧
      atLow.shown.map List.length = [1, 0, 1, 0, 1, 1, 0, 1] ∧
      atHigh.shown = [[], [], ["[DEBUGGER] Collect failed at t=0.500: " ++
        "Tracker 0 assigned to detection 7, but only 1 detections exist"], [], [], [], [], []] := by
  intro misplaced collect requests atLow atHigh
  have hlevels : Log.debug ≠ 0 ∧ Log.error ≠ 0 ∧ Log.debug ≤ Log.error := by decide
  rcases level_only_filters smallCanvas requests hlevels.1 hlevels.2.1 hlevels.2.2
    [.start ⟨Log.error, false⟩] [] with ⟨⟨-, hnext⟩, hlow, -, -⟩
  exact ⟨hlevels, hnext, hlow, by decide, by decide⟩

end Session
end TrackOverlay
