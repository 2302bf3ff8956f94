import Streamkeeper.Execution.Pump
import Streamkeeper.Proofs.Execution.Supervision
import Streamkeeper.Proofs.Text.Lines

/-!
# The reading loop — every chunk once, up to the first refusal

A handler takes the chunks of an output one after the other, each in the state that the one before
has left (`fed`).  It accepts all of them (`Accepts`), or there is a first one that it refuses
(`Refuses`); `deliver` calls it on the chunks up to there (`deliver_of_accepts`,
`deliver_of_refuses`).

The loop `Pump.run` does the same chunk by chunk, with a refusal that it remembers, and reads on
behind it to the end of the output (`Pump.run_onward`).  What it logs does not depend on where the
chunks are cut: it is the lines of the output (`Pump.logged_run`).  So the reader of a supervisor
does what the loop does (`Reader.finish_output`).

`Scene.output_delivered`: what waiting for a child does with its output, its errors and its exit code.
-/

namespace Streamkeeper.Execution

variable {σ ω : Type}

/-! ### What a handler makes of an output -/

/-- The state of a handler after it was called on chunks in order. -/
def fed (h : Handler σ) (s : σ) (cs : List Octets) : σ :=
  cs.foldl (fun s c => (h c s).2) s

/-- The handler accepts every chunk. -/
def Accepts (h : Handler σ) (s : σ) (cs : List Octets) : Prop :=
  ∀ before c after, cs = before ++ c :: after → (h c (fed h s before)).1 = .ok ()

/-- The first chunk that the handler refuses is `c`, with this message. -/
def Refuses (h : Handler σ) (s : σ) (cs before : List Octets) (c : Octets) (message : String) :
    Prop :=
  (∃ after, cs = before ++ c :: after) ∧ Accepts h s before ∧
    (h c (fed h s before)).1 = .error message

section Deliver

variable {h : Handler σ} {s : σ} {c : Octets} {cs before : List Octets} {message : String}

theorem accepts_nil : Accepts h s [] := by
  intro before c after hs
  cases before <;> cases hs

theorem accepts_cons_iff : Accepts h s (c :: cs) ↔
    (h c s).1 = .ok () ∧ Accepts h (h c s).2 cs := by
  constructor
  · intro ha
    exact ⟨ha [] c cs rfl, fun before d after hs => ha (c :: before) d after (congrArg _ hs)⟩
  · rintro ⟨hc, ha⟩ before d after hs
    cases before with
    | nil =>
        cases hs
        exact hc
    | cons c' before =>
        cases hs
        exact ha before d after rfl

theorem refuses_cons_iff {c' : Octets} :
    Refuses h s (c :: cs) (c :: before) c' message ↔
      (h c s).1 = .ok () ∧ Refuses h (h c s).2 cs before c' message := by
  rw [Refuses, Refuses, accepts_cons_iff]
  simp only [List.cons_append, List.cons.injEq, true_and, fed, List.foldl_cons]
  tauto

/-- A chunk is accepted, or it is the first one that is refused. -/
theorem accepts_or_refuses (h : Handler σ) (s : σ) (cs : List Octets) :
    Accepts h s cs ∨ ∃ before c message, Refuses h s cs before c message := by
  induction cs generalizing s with
  | nil => exact .inl accepts_nil
  | cons c cs ih =>
      rcases hc : (h c s).1 with message | ⟨⟩
      · exact .inr ⟨[], c, message, ⟨cs, rfl⟩, accepts_nil, hc⟩
      · refine (ih (h c s).2).imp (fun ha => accepts_cons_iff.mpr ⟨hc, ha⟩) ?_
        rintro ⟨before, c', message, hr⟩
        exact ⟨c :: before, c', message, refuses_cons_iff.mpr ⟨hc, hr⟩⟩

theorem deliver_cons_ok (hc : (h c s).1 = .ok ()) :
    deliver h (c :: cs) s = deliver h cs (h c s).2 := by
  have hs : h c s = (.ok (), (h c s).2) := Prod.ext hc rfl
  rw [deliver, hs]

theorem deliver_cons_error (hc : (h c s).1 = .error message) :
    deliver h (c :: cs) s = (some message, (h c s).2) := by
  have hs : h c s = (.error message, (h c s).2) := Prod.ext hc rfl
  rw [deliver, hs]

theorem deliver_of_accepts (ha : Accepts h s cs) : deliver h cs s = (none, fed h s cs) := by
  induction cs generalizing s with
  | nil => rfl
  | cons c cs ih =>
      obtain ⟨hc, ha⟩ := accepts_cons_iff.mp ha
      rw [deliver_cons_ok hc, ih ha]
      rfl

theorem deliver_of_refuses (hr : Refuses h s cs before c message) :
    deliver h cs s = (some message, fed h s (before ++ [c])) := by
  obtain ⟨⟨after, rfl⟩, ha, hc⟩ := hr
  induction before generalizing s with
  | nil => exact deliver_cons_error hc
  | cons d before ih =>
      obtain ⟨hd, ha⟩ := accepts_cons_iff.mp ha
      rw [List.cons_append, deliver_cons_ok hd, ih ha hc]
      rfl

theorem deliver_eq_none_iff : (deliver h cs s).1 = none ↔ Accepts h s cs := by
  refine ⟨fun hd => ?_, fun ha => by rw [deliver_of_accepts ha]⟩
  rcases accepts_or_refuses h s cs with ha | ⟨before, c, message, hr⟩
  · exact ha
  · rw [deliver_of_refuses hr] at hd
    cases hd

theorem deliver_eq_some_iff :
    (deliver h cs s).1 = some message ↔ ∃ before c, Refuses h s cs before c message := by
  refine ⟨fun hd => ?_, fun ⟨before, c, hr⟩ => by rw [deliver_of_refuses hr]⟩
  rcases accepts_or_refuses h s cs with ha | ⟨before, c, message', hr⟩
  · rw [deliver_of_accepts ha] at hd
    cases hd
  · rw [deliver_of_refuses hr] at hd
    cases hd
    exact ⟨before, c, hr⟩

end Deliver

/-! ### A handler that writes down its calls -/

/-- The handler, with the chunks that it was called on. -/
def observed (h : Handler σ) : Handler (List Octets × σ) :=
  fun chunk (calls, s) => ((h chunk s).1, calls ++ [chunk], (h chunk s).2)

section Observed

variable {h : Handler σ} {s : List Octets × σ} {c : Octets} {cs before : List Octets}
  {message : String}

theorem fed_observed (h : Handler σ) (s : List Octets × σ) (cs : List Octets) :
    fed (observed h) s cs = (s.1 ++ cs, fed h s.2 cs) := by
  induction cs generalizing s with
  | nil => rw [List.append_nil]; rfl
  | cons c cs ih =>
      calc
        fed (observed h) s (c :: cs) = (s.1 ++ [c] ++ cs, fed h (h c s.2).2 cs) := ih _
        _ = (s.1 ++ c :: cs, fed h s.2 (c :: cs)) := by
            rw [List.append_assoc]
            rfl

theorem accepts_observed_iff : Accepts (observed h) s cs ↔ Accepts h s.2 cs := by
  simp only [Accepts, fed_observed]
  rfl

theorem refuses_observed_iff :
    Refuses (observed h) s cs before c message ↔ Refuses h s.2 cs before c message := by
  simp only [Refuses, accepts_observed_iff, fed_observed]
  rfl

/-- A handler that writes down its calls is called on every chunk, or on those up to the first one
that is refused. -/
theorem deliver_observed (h : Handler σ) (s : List Octets × σ) (cs : List Octets) :
    ∃ heard, (deliver (observed h) cs s).2 = (s.1 ++ heard, fed h s.2 heard) ∧
      ((Accepts h s.2 cs ∧ heard = cs) ∨
        ∃ before c message, Refuses h s.2 cs before c message ∧ heard = before ++ [c]) := by
  rcases accepts_or_refuses h s.2 cs with ha | ⟨before, c, message, hr⟩
  · rw [deliver_of_accepts (accepts_observed_iff.mpr ha), fed_observed]
    exact ⟨cs, rfl, .inl ⟨ha, rfl⟩⟩
  · rw [deliver_of_refuses (refuses_observed_iff.mpr hr), fed_observed]
    exact ⟨before ++ [c], rfl, .inr ⟨before, c, message, hr, rfl⟩⟩

end Observed

/-! ### Lines, cut chunk by chunk -/

namespace Pump

theorem cut_append (line xs ys : Octets) :
    cut line (xs ++ ys) =
      ((cut line xs).1 ++ (cut (cut line xs).2 ys).1, (cut (cut line xs).2 ys).2) := by
  induction xs generalizing line with
  | nil => rfl
  | cons b xs ih =>
      rw [List.cons_append, cut, cut]
      split
      · rw [ih]
        rfl
      · exact ih _

theorem cut_of_not_mem {xs : Octets} (h : Text.lineFeed ∉ xs) (line : Octets) :
    cut line xs = ([], line ++ xs) := by
  induction xs generalizing line with
  | nil => rw [List.append_nil]; rfl
  | cons b xs ih =>
      obtain ⟨hb, hxs⟩ := List.ne_and_not_mem_of_not_mem_cons h
      rw [cut, if_neg (Ne.symm hb), ih hxs, List.append_assoc]
      rfl

/-- What is left has no line feed. -/
theorem not_mem_cut {line : Octets} (h : Text.lineFeed ∉ line) (xs : Octets) :
    Text.lineFeed ∉ (cut line xs).2 := by
  induction xs generalizing line with
  | nil => exact h
  | cons b xs ih =>
      rw [cut]
      split
      · exact ih List.not_mem_nil
      · next hb => exact ih (by simp [h, Ne.symm hb])

/-- The lines of octets are those that are cut off, and what is left, unless nothing is. -/
theorem octets_linesFrom {fuel : Nat} {bytes : Octets} (hf : bytes.length ≤ fuel) :
    (Text.linesFrom fuel bytes).map Text.Line.octets =
      (cut [] bytes).1 ++ if (cut [] bytes).2 = [] then [] else [(cut [] bytes).2] := by
  induction fuel generalizing bytes with
  | zero =>
      obtain rfl : bytes = [] := List.length_eq_zero_iff.mp (Nat.le_zero.mp hf)
      rfl
  | succ fuel ih =>
      by_cases hm : Text.lineFeed ∈ bytes
      · -- the first line ends at the first line feed, and the rest is shorter
        obtain ⟨l, rest, rfl, hl⟩ := List.eq_append_cons_of_mem hm
        have hr : rest.length ≤ fuel := by
          rw [List.length_append, List.length_cons] at hf
          omega
        have hcut : cut [] (l ++ Text.lineFeed :: rest) =
            ((l ++ [Text.lineFeed]) :: (cut [] rest).1, (cut [] rest).2) := by
          rw [cut_append, cut_of_not_mem hl, cut, if_pos rfl]
          rfl
        rw [Text.linesFrom_line hl, hcut, List.map_cons, ih hr]
        rfl
      · rw [cut_of_not_mem hm, List.nil_append, List.nil_append]
        by_cases hn : bytes = []
        · rw [hn, if_pos rfl, Text.linesFrom_nil]
          rfl
        · rw [if_neg hn, Text.linesFrom_last hm hn]
          rfl

theorem forwardedLines_eq (bytes : Octets) :
    forwardedLines bytes =
      ((cut [] bytes).1 ++ if (cut [] bytes).2 = [] then [] else [(cut [] bytes).2]).map
        logLine := by
  rw [← octets_linesFrom (Nat.le_refl bytes.length), List.map_map]
  rfl

/-! ### The loop -/

variable {handler : Option (Handler σ)} {forwards : Bool} {chunk bytes : Octets}
  {cs : List Octets} {p : Pump σ}

/-- What was logged, and what waits, once these octets were read. -/
structure Seen (forwards : Bool) (bytes : Octets) (p : Pump σ) : Prop where
  logged : p.logged = if forwards then (cut [] bytes).1.map logLine else []
  pending : p.pending = if forwards then (cut [] bytes).2 else []

theorem seen_initial (forwards : Bool) (s : σ) : Seen forwards [] (initial s) := by
  cases forwards <;> exact ⟨rfl, rfl⟩

/-- The handler has no part in what is logged. -/
theorem hand_eq (handler : Option (Handler σ)) (chunk : Octets) (p : Pump σ) :
    p.hand handler chunk =
      { p with
        refusal := (p.hand handler chunk).refusal
        kept := (p.hand handler chunk).kept } := by
  unfold hand
  repeat' split
  all_goals rfl

/-- Lines that were cut off in two goes are those that are cut off at once. -/
theorem Seen.take (hp : p.Seen forwards bytes) :
    (p.take handler forwards chunk).Seen forwards (bytes ++ chunk) := by
  cases forwards with
  | false =>
      rw [Pump.take, hand_eq]
      exact ⟨hp.logged, hp.pending⟩
  | true =>
      have hl : p.logged = (cut [] bytes).1.map logLine := hp.logged
      have hq : p.pending = (cut [] bytes).2 := hp.pending
      -- the line that waits has no line feed, so cutting goes on behind it
      have hcut : cut [] ((cut [] bytes).2 ++ chunk) = cut (cut [] bytes).2 chunk := by
        rw [cut_append, cut_of_not_mem (not_mem_cut List.not_mem_nil bytes)]
        rfl
      rw [Pump.take, hand_eq]
      simp only [if_true, forward, hl, hq, hcut]
      constructor
      · rw [if_pos rfl, cut_append, List.map_append]
      · rw [if_pos rfl, cut_append]

/-- At the end of the output its lines were logged. -/
theorem Seen.logged_finish (hp : p.Seen forwards bytes) :
    (p.finish forwards).logged = if forwards then forwardedLines bytes else [] := by
  cases forwards with
  | false => exact hp.logged
  | true =>
      have hl : p.logged = (cut [] bytes).1.map logLine := hp.logged
      have hq : p.pending = (cut [] bytes).2 := hp.pending
      rw [if_pos rfl, forwardedLines_eq, finish, hq, List.map_append, ← hl]
      by_cases hn : (cut [] bytes).2 = []
      · rw [if_neg (fun e => e.2 hn), if_pos hn, List.map_nil, List.append_nil]
      · rw [if_pos ⟨rfl, hn⟩, if_neg hn]
        rfl

/-- What more chunks do to the handler: nothing, once it has refused one. -/
def onward (handler : Option (Handler σ)) (cs : List Octets) (p : Pump σ) : Option String × σ :=
  match p.refusal, handler with
  | none, some h => deliver h cs p.kept
  | refusal, _ => (refusal, p.kept)

theorem onward_nil : p.onward handler [] = (p.refusal, p.kept) := by
  rcases p with ⟨_ | message, pending, logged, kept⟩ <;> cases handler <;> rfl

/-- Chunks are delivered one after the other. -/
theorem onward_cons (forwards : Bool) : p.onward handler (chunk :: cs) =
    (p.take handler forwards chunk).onward handler cs := by
  have ht : (p.take handler forwards chunk).onward handler cs =
      (p.hand handler chunk).onward handler cs := by
    cases forwards <;> rfl
  rw [ht]
  rcases p with ⟨_ | message, pending, logged, kept⟩
  · cases handler with
    | none => rfl
    | some h =>
        -- an answer that is an error stops the delivery, and is remembered by the loop
        rcases hc : h chunk kept with ⟨message | ⟨⟩, kept'⟩
        · simp [onward, hand, deliver, hc]
        · simp [onward, hand, deliver, hc]
  · cases handler <;> rfl

theorem onward_initial {child : Child} {s : σ} :
    (initial s).onward handler child.output = handled handler child s := by
  cases handler <;> rfl

theorem refusal_finish : (p.finish forwards).refusal = p.refusal := by
  rw [finish]
  split <;> rfl

theorem kept_finish : (p.finish forwards).kept = p.kept := by
  rw [finish]
  split <;> rfl

/-- The loop reads to the end of the output, refused or not, and the handler has got of it what
`onward` says. -/
theorem run_onward (handler : Option (Handler σ)) (forwards : Bool) (p : Pump σ)
    (hne : ∀ c ∈ cs, c ≠ []) :
    (run handler forwards cs p).1.refusal = (p.onward handler cs).1 ∧
      (run handler forwards cs p).1.kept = (p.onward handler cs).2 ∧
      (run handler forwards cs p).2 = [] := by
  induction cs generalizing p with
  | nil =>
      rw [run, onward_nil]
      exact ⟨refusal_finish, kept_finish, rfl⟩
  | cons c cs ih =>
      obtain ⟨hc, hcs⟩ := List.forall_mem_cons.mp hne
      rw [run, if_neg hc, onward_cons forwards]
      exact ih _ hcs

/-- The lines of the output are logged, wherever it is cut into chunks. -/
theorem logged_run (handler : Option (Handler σ)) (hp : p.Seen forwards bytes)
    (hne : ∀ c ∈ cs, c ≠ []) :
    (run handler forwards cs p).1.logged =
      if forwards then forwardedLines (bytes ++ cs.flatten) else [] := by
  induction cs generalizing p bytes with
  | nil => rw [run, hp.logged_finish, List.flatten_nil, List.append_nil]
  | cons c cs ih =>
      obtain ⟨hc, hcs⟩ := List.forall_mem_cons.mp hne
      rw [run, if_neg hc, ih hp.take hcs, List.flatten_cons, List.append_assoc]

end Pump

/-- The reader of an output does what the loop does. -/
theorem Reader.finish_output {child : Child} (launch : Provisioning.Launch)
    (handler : Option (Handler σ)) (s : σ) (hne : ∀ c ∈ child.output, c ≠ []) :
    (Reader.output child.output).finish launch handler s =
      let p := (Pump.run handler launch.forwardsOutput child.output (.initial s)).1
      (p.refusal.map (.handler launch.name), p.logged.map .output, p.kept) := by
  obtain ⟨hr, hk, -⟩ := Pump.run_onward handler launch.forwardsOutput (.initial s) hne
  have hl := Pump.logged_run handler (Pump.seen_initial launch.forwardsOutput s) hne
  simp only [hr, hk, hl, Pump.onward_initial, List.nil_append]
  cases handler <;> rfl

/-! ### The chunks of an output that is there at once -/

theorem flatten_chunksFrom {fuel : Nat} {bytes : Octets} (hf : bytes.length ≤ fuel) :
    (chunksFrom fuel bytes).flatten = bytes := by
  induction fuel generalizing bytes with
  | zero => exact (List.length_eq_zero_iff.mp (Nat.le_zero.mp hf)).symm
  | succ fuel ih =>
      cases bytes with
      | nil => rfl
      | cons b bytes =>
          have hd : ((b :: bytes).drop chunkSize).length ≤ fuel := by
            rw [List.length_drop, chunkSize]
            omega
          rw [chunksFrom, List.flatten_cons, ih hd, List.take_append_drop]
          exact List.cons_ne_nil b bytes

theorem mem_chunksFrom {fuel : Nat} {bytes c : Octets} (hc : c ∈ chunksFrom fuel bytes) :
    c ≠ [] ∧ c.length ≤ chunkSize := by
  induction fuel generalizing bytes with
  | zero => cases hc
  | succ fuel ih =>
      cases bytes with
      | nil => cases hc
      | cons b bytes =>
          rw [chunksFrom] at hc
          · rcases List.mem_cons.mp hc with rfl | hc
            · exact ⟨List.cons_ne_nil _ _, List.length_take_le _ _⟩
            · exact ih hc
          · exact List.cons_ne_nil b bytes

/-- A program that has completed is a child whose output is read in chunks that are not empty. -/
theorem Child.output_ofCompletion (output errors : Octets) (exitCode : Option Nat) :
    (Child.ofCompletion output errors exitCode).output.flatten = output ∧
      ∀ c ∈ (Child.ofCompletion output errors exitCode).output, c ≠ [] ∧ c.length ≤ chunkSize :=
  ⟨flatten_chunksFrom (Nat.le_refl _), fun _ => mem_chunksFrom⟩

/-! ### Waiting for a child -/

section Failure

variable {launch : Provisioning.Launch} {child : Child} {handler : Option (Handler σ)} {s : σ}

/-- A wait reports that the handler refused a chunk if and only if it did. -/
theorem resultOf_failure_iff {message : String} :
    resultOf (child.failure launch handler s) = .error (.handler launch.name message) ↔
      (handled handler child s).1 = some message := by
  rw [Child.failure]
  rcases (handled handler child s).1 with _ | refusal
  · cases child.flaw <;> simp [readingFailure, resultOf]
  · simp [readingFailure, resultOf]

/-- A wait reports what is wrong with the errors if the handler took everything. -/
theorem failure_of_accepted (hn : (handled handler child s).1 = none) :
    child.failure launch handler s = child.flaw.map fun f => .reader launch.name f.message := by
  rw [Child.failure, hn]
  cases child.flaw <;> rfl

end Failure

namespace Scene

/-- What waiting for a child does with its output: `s` is there before the wait and `o` is what the
wait gives, `pump` is how the reading loop ends, and `heard` are the chunks that the handler was
called on. -/
structure Delivered (launch : Provisioning.Launch) (child : Child) (h : Handler σ)
    (s : Scene ω (List Octets × σ)) (o : Except ProcessError Unit × Scene ω (List Octets × σ))
    (pump : Pump (List Octets × σ)) (heard : List Octets) : Prop where
  /-- The output is read to its end. -/
  drained : Pump.run (some (observed h)) launch.forwardsOutput child.output (.initial s.kept) =
    (pump, [])
  kept : o.2.kept = pump.kept
  notices : o.2.notices = s.notices ++ (pump.logged.map .output ++
    (errorLines (Text.lines child.errors)).1.map .errors)
  /-- The handler was called on these chunks in order, on each once. -/
  calls : pump.kept = (s.kept.1 ++ heard, fed h s.kept.2 heard)
  /-- They are all chunks, or those up to the first one that it refuses. -/
  heard_eq : (Accepts h s.kept.2 child.output ∧ heard = child.output) ∨
    ∃ before c message, Refuses h s.kept.2 child.output before c message ∧ heard = before ++ [c]
  /-- A handler that accepts whatever it gets has got the whole output. -/
  octets : (∀ c s, (h c s).1 = .ok ()) → heard.flatten = child.output.flatten
  /-- The handler is what failed if and only if it refused a chunk, whatever the errors hold, and
  the message is that of its first refusal. -/
  refused : ∀ message, o.1 = .error (.handler launch.name message) ↔
    ∃ before c, Refuses h s.kept.2 child.output before c message
  /-- The errors count if every chunk was accepted. -/
  accepted : Accepts h s.kept.2 child.output →
    o.1 = resultOf (child.flaw.map fun f => .reader launch.name f.message)
  /-- The exit code is known, whatever failed. -/
  exitCode : o.2.process.code = child.exitCode.elim (-1) Nat.cast

variable {spawn : ω → Except Host.IoError Child × ω} {launch : Provisioning.Launch}
  {child : Child} {h : Handler σ} {s : Scene ω (List Octets × σ)}

/-- **The output is delivered.**  Waiting for a child reads all of its output and calls the handler
on the chunks in order, on each once, up to the first one that it refuses and on none after it; a
handler that accepts whatever it gets has got the whole output.  What is reported is the first
refusal, if there is one, even if the errors of the child are no text either; and the exit code is
the child's in every case. -/
theorem output_delivered (hat : s.At launch (.running child)) (hne : ∀ c ∈ child.output, c ≠ []) :
    ∃ pump heard,
      Delivered launch child h s (s.call spawn (some (observed h)) .wait) pump heard := by
  obtain ⟨-, hk, hu⟩ :=
    Pump.run_onward (some (observed h)) launch.forwardsOutput (.initial s.kept) hne
  have hl := Pump.logged_run (some (observed h))
    (Pump.seen_initial launch.forwardsOutput s.kept) hne
  rw [Pump.onward_initial] at hk
  obtain ⟨heard, hcalls, hheard⟩ := deliver_observed h s.kept child.output
  refine ⟨(Pump.run (some (observed h)) launch.forwardsOutput child.output (.initial s.kept)).1,
    heard, ?_⟩
  rw [hat.wait_running]
  constructor
  case drained => exact Prod.ext rfl hu
  case kept => exact hk.symm
  case notices => rw [hl]; rfl
  case calls => exact hk.trans hcalls
  case heard_eq => exact hheard
  case octets =>
    intro hok
    rcases hheard with ⟨-, rfl⟩ | ⟨before, c, message, ⟨-, -, hc⟩, -⟩
    · rfl
    · rw [hok] at hc
      cases hc
  case refused =>
    intro message
    -- writing down the calls changes no answer of the handler
    rw [resultOf_failure_iff]
    exact deliver_eq_some_iff.trans (by simp only [refuses_observed_iff])
  case accepted =>
    intro ha
    have hn : (handled (some (observed h)) child s.kept).1 = none :=
      deliver_eq_none_iff.mpr (accepts_observed_iff.mpr ha)
    rw [failure_of_accepted hn]
  case exitCode => rcases child with ⟨output, errors, _ | n⟩ <;> rfl

/-- The second of three chunks is refused, and the errors are no text. -/
theorem output_delivered_refused :
    let child : Child := ⟨[[104], [105], [106]], [255], some 3⟩
    let h : Handler Nat := fun chunk n =>
      (if chunk = [105] then .error "no room" else .ok (), n + 1)
    let s : Scene Unit (List Octets × Nat) :=
      ((fresh (.ofProgram "sh") () ([], 0)).call (fun _ => (.ok child, ())) (some (observed h))
        .start).2
    let o := s.call (fun _ => (.ok child, ())) (some (observed h)) .wait
    s.At (.ofProgram "sh") (.running child) ∧ (∀ c ∈ child.output, c ≠ []) ∧
      (∃ pump heard, Delivered (.ofProgram "sh") child h s o pump heard) ∧
      o.1 = .error (.handler "sh" "no room") ∧ o.2.process.code = 3 ∧
      o.2.kept = ([[104], [105]], 2) := by
  intro child h s o
  have hat : s.At (.ofProgram "sh") (.running child) := ⟨rfl, rfl⟩
  have hne : ∀ c ∈ child.output, c ≠ [] := by decide
  exact ⟨hat, hne, output_delivered hat hne, by decide, by decide, by decide⟩

end Scene

end Streamkeeper.Execution
