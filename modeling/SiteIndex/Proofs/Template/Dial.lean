import Mathlib.Data.Int.GCD
import Mathlib.Data.Nat.ModEq
import Mathlib.Tactic.Ring
import SiteIndex.Proofs.Template.CursorBack
import SiteIndex.Proofs.Template.Winding

/-!
Calls of `files` without a body, and the loops of `files` that they stand in. The cursor goes round a dial:
each call moves it on by one, over the entries and over the one stop at which nothing is selected. A loop
asks for no more passes where its body has left the cursor at that stop, or right before it. A body can
carry the cursor past both, round and round, and whether it comes to one of them at last is a question of
arithmetic; a loop in the body makes it easy, as it leaves the cursor at the same stop each time.
-/

namespace SiteIndex.Template

open SiteIndex.Listing SiteIndex.Text

/-- Moving on by `step` at a time, the dial comes from `stop` to 0 if the common divisor lets it, and within as
many moves as there are stops. -/
theorem exists_round {size step stop : Nat} (positive : 0 < size) (divides : step.gcd size ∣ stop) :
    ∃ count < size, size ∣ stop + (count + 1) * step := by
  obtain ⟨moves, comes⟩ : ∃ moves, size ∣ stop + moves * step := by
    obtain ⟨times, rfl⟩ := divides
    rcases Nat.lt_or_ge (step.gcd size) size with smaller | whole
    · obtain ⟨inverse, _, same⟩ := Nat.exists_mul_mod_eq_gcd smaller
      have moved : step * inverse ≡ step.gcd size [MOD size] := by
        rw [Nat.ModEq, same, Nat.mod_eq_of_lt smaller]
      have back : step.gcd size * times + step * inverse * ((size - 1) * times) ≡
          step.gcd size * times + step.gcd size * ((size - 1) * times) [MOD size] :=
        (moved.mul_right _).add_left _
      have zero (common : Nat) : common * times + common * ((size - 1) * times) =
          size * (common * times) := by
        obtain ⟨rest, rfl⟩ : ∃ rest, size = rest + 1 := ⟨size - 1, by omega⟩
        rw [Nat.add_sub_cancel]
        ring
      refine ⟨inverse * ((size - 1) * times), ?_⟩
      rw [show inverse * ((size - 1) * times) * step = step * inverse * ((size - 1) * times) by ring]
      exact (back.dvd_iff dvd_rfl).mpr (zero _ ▸ Nat.dvd_mul_right _ _)
    · have all : size ∣ step.gcd size := by
        rw [Nat.le_antisymm (Nat.le_of_dvd positive (Nat.gcd_dvd_right step size)) whole]
      exact ⟨0, by simpa using all.mul_right times⟩
  refine ⟨(moves + (size - 1)) % size, Nat.mod_lt _ positive, ?_⟩
  have same : (moves + (size - 1)) % size + 1 ≡ moves [MOD size] := by
    have around : moves + (size - 1) + 1 = moves + size := by omega
    calc (moves + (size - 1)) % size + 1
        ≡ moves + (size - 1) + 1 [MOD size] := (Nat.mod_modEq _ _).add_right 1
      _ = moves + size := around
      _ ≡ moves [MOD size] := by simp [Nat.ModEq]
  exact (((same.mul_right step).add_left stop).dvd_iff dvd_rfl).mpr comes

/-- A loop over a body that moves the dial on by `calls`, if it asks at `stop`, asks at 0 or right before it
after so many passes. -/
def Meets (size calls passes stop : Nat) : Prop :=
  size ∣ stop + passes * (calls + 1) ∨ size ∣ stop + 1 + passes * (calls + 1)

theorem meets_zero {size calls stop : Nat} (below : stop < size) :
    Meets size calls 0 stop ↔ stop = 0 ∨ (stop + 1) % size = 0 := by
  unfold Meets
  rw [Nat.zero_mul, Nat.add_zero, Nat.add_zero]
  refine or_congr ⟨fun divides => Nat.eq_zero_of_dvd_of_lt divides below, ?_⟩ Nat.dvd_iff_mod_eq_zero
  rintro rfl
  exact Nat.dvd_zero size

/-- One pass further on it asks at the stop to which the body has moved the dial. -/
theorem meets_succ (size calls passes stop : Nat) :
    Meets size calls (passes + 1) stop ↔
      Meets size calls passes (((stop + 1) % size + calls) % size) := by
  have same : ((stop + 1) % size + calls) % size ≡ stop + (calls + 1) [MOD size] := by
    calc ((stop + 1) % size + calls) % size
        ≡ (stop + 1) % size + calls [MOD size] := Nat.mod_modEq _ _
      _ ≡ stop + 1 + calls [MOD size] := (Nat.mod_modEq _ _).add_right calls
      _ = stop + (calls + 1) := by ring
  unfold Meets
  rw [show stop + (passes + 1) * (calls + 1) = stop + (calls + 1) + passes * (calls + 1) by ring,
    show stop + 1 + (passes + 1) * (calls + 1) =
      stop + (calls + 1) + 1 + passes * (calls + 1) by ring]
  exact or_congr ((same.add_right _).dvd_iff dvd_rfl).symm
    (((same.add_right 1).add_right _).dvd_iff dvd_rfl).symm

theorem exists_meets {size calls stop : Nat} (positive : 0 < size)
    (divides : (calls + 1).gcd size ∣ stop ∨ (calls + 1).gcd size ∣ stop + 1) :
    ∃ passes < size, Meets size calls (passes + 1) stop := by
  rcases divides with here | before
  · obtain ⟨passes, few, comes⟩ := exists_round positive here
    exact ⟨passes, few, .inl comes⟩
  · obtain ⟨passes, few, comes⟩ := exists_round positive before
    exact ⟨passes, few, .inr comes⟩

theorem dvd_of_meets {size calls passes stop : Nat} (meets : Meets size calls passes stop) :
    (calls + 1).gcd size ∣ stop ∨ (calls + 1).gcd size ∣ stop + 1 := by
  have moved : (calls + 1).gcd size ∣ passes * (calls + 1) := (Nat.gcd_dvd_left _ _).mul_left passes
  have whole : (calls + 1).gcd size ∣ size := Nat.gcd_dvd_right _ _
  exact meets.imp (fun comes => (Nat.dvd_add_left moved).mp (whole.trans comes))
    fun comes => (Nat.dvd_add_left moved).mp (whole.trans comes)

namespace Section

/-- Whether a loop of `files` stands in it, outside of all bodies. -/
def loops : Section → Bool
  | endsAt _ => false
  | text _ next | call _ _ next => next.loops
  | block name _ _ next => Widget.ofName? name == some .files || next.loops

/-- How often `files` is called without a body, outside of all bodies and behind the last loop of it. -/
def calls : Section → Nat
  | endsAt _ => 0
  | text _ next | block _ _ _ next => next.calls
  | call name _ next =>
      if Widget.ofName? name = some .files ∧ next.loops = false then next.calls + 1 else next.calls

/-- Where on a dial with so many stops the cursor is behind a section that it has entered at `stop`. -/
def leavesAt (size : Nat) (part : Section) (stop : Nat) : Nat :=
  if part.loops then part.calls % size else (stop + part.calls) % size

/-- Whether a body that the cursor has entered carries it at last to the stop at which nothing is selected,
or to the one before, if its loop first asks at `stop`. -/
def comesRound (size : Nat) (body : Section) (stop : Nat) : Bool :=
  if body.loops then size ∣ body.calls || size ∣ body.calls + 1
  else (body.calls + 1).gcd size ∣ stop || (body.calls + 1).gcd size ∣ stop + 1

/-- Whether every loop of `files` comes to its end, if the cursor is at `stop` before the section. -/
def loopsEnd (size : Nat) : Section → (stop : Nat) → Bool
  | endsAt _, _ => true
  | text _ next, stop => next.loopsEnd size stop
  | call name _ next, stop =>
      next.loopsEnd size (if Widget.ofName? name = some .files then (stop + 1) % size else stop)
  | block name _ body next, stop =>
      if Widget.ofName? name = some .files then
        (size ∣ stop + 1 || body.loopsEnd size ((stop + 1) % size) &&
            (!body.isWhole || body.comesRound size stop)) &&
          (!body.isWhole || next.loopsEnd size 0)
      else !body.isWhole || next.loopsEnd size stop

/-- Whether no widget is invoked that repeats its body but `files`. -/
def repeatsFilesOnly (part : Section) : Bool :=
  part.names.all fun name =>
    match Widget.ofName? name with
    | some widget => widget == .files || !widget.repeats
    | none => true

section
variable {size : Nat} {name : String} {offset : Nat} {body next : Section}

theorem repeatsFilesOnly_call (plain : (call name offset next).repeatsFilesOnly = true) :
    (∀ widget, Widget.ofName? name = some widget → widget ≠ .files → widget.repeats = false) ∧
      next.repeatsFilesOnly = true := by
  obtain ⟨here, onward⟩ := Bool.and_eq_true_iff.mp plain
  refine ⟨fun widget named other => ?_, onward⟩
  simpa [named, other] using here

theorem repeatsFilesOnly_block (plain : (block name offset body next).repeatsFilesOnly = true) :
    (∀ widget, Widget.ofName? name = some widget → widget ≠ .files → widget.repeats = false) ∧
      body.repeatsFilesOnly = true ∧ next.repeatsFilesOnly = true := by
  simp only [repeatsFilesOnly, names, List.cons_append, List.all_cons, List.all_append,
    Bool.and_eq_true] at plain
  refine ⟨fun widget named other => ?_, plain.2⟩
  simpa [named, other] using plain.1

theorem leavesAt_endsAt (last : Stop) {stop : Nat} (within : stop < size) :
    (endsAt last).leavesAt size stop = stop :=
  Nat.mod_eq_of_lt within

theorem leavesAt_call_files (named : Widget.ofName? name = some .files) (stop : Nat) :
    (call name offset next).leavesAt size stop = next.leavesAt size ((stop + 1) % size) := by
  unfold leavesAt
  cases more : next.loops with
  | true =>
      have loops : (call name offset next).loops = true := more
      have calls : (call name offset next).calls = next.calls :=
        if_neg fun last => Bool.noConfusion (more.symm.trans last.2)
      simp only [loops, calls, if_true]
  | false =>
      have loops : (call name offset next).loops = false := more
      have calls : (call name offset next).calls = next.calls + 1 := if_pos ⟨named, more⟩
      simp only [loops, calls, Bool.false_eq_true, if_false]
      rw [Nat.mod_add_mod, Nat.add_assoc, Nat.add_comm 1]

theorem leavesAt_call_other (named : Widget.ofName? name ≠ some .files) (stop : Nat) :
    (call name offset next).leavesAt size stop = next.leavesAt size stop := by
  have calls : (call name offset next).calls = next.calls := if_neg fun last => named last.1
  unfold leavesAt
  rw [calls]
  rfl

theorem leavesAt_block_files (named : Widget.ofName? name = some .files) (stop : Nat) :
    (block name offset body next).leavesAt size stop = next.leavesAt size 0 := by
  have loops : (block name offset body next).loops = true :=
    congrArg (· || next.loops) (beq_iff_eq.mpr named)
  unfold leavesAt
  rw [if_pos loops, Nat.zero_add, ite_self]
  rfl

theorem leavesAt_block_other (named : Widget.ofName? name ≠ some .files) (stop : Nat) :
    (block name offset body next).leavesAt size stop = next.leavesAt size stop := by
  have loops : (block name offset body next).loops = next.loops :=
    congrArg (· || next.loops) (beq_false_of_ne named)
  unfold leavesAt
  rw [loops]
  rfl

theorem loopsEnd_call_files (named : Widget.ofName? name = some .files) (stop : Nat) :
    (call name offset next).loopsEnd size stop = next.loopsEnd size ((stop + 1) % size) :=
  congrArg (next.loopsEnd size) (if_pos named)

theorem loopsEnd_call_other (named : Widget.ofName? name ≠ some .files) (stop : Nat) :
    (call name offset next).loopsEnd size stop = next.loopsEnd size stop :=
  congrArg (next.loopsEnd size) (if_neg named)

theorem loopsEnd_block_files (named : Widget.ofName? name = some .files) (stop : Nat) :
    (block name offset body next).loopsEnd size stop = true ↔
      (size ∣ stop + 1 ∨ body.loopsEnd size ((stop + 1) % size) = true ∧
        (body.isWhole = true → body.comesRound size stop = true)) ∧
      (body.isWhole = true → next.loopsEnd size 0 = true) := by
  cases whole : body.isWhole <;> simp [loopsEnd, named, whole]

theorem loopsEnd_block_other (named : Widget.ofName? name ≠ some .files) (stop : Nat) :
    (block name offset body next).loopsEnd size stop = true ↔
      (body.isWhole = true → next.loopsEnd size stop = true) := by
  cases whole : body.isWhole <;> simp [loopsEnd, named, whole]

/-- A body that comes round brings its loop to its end, with a single pass if it leaves the cursor at the same
stop each time. -/
theorem meets_of_comesRound {stop : Nat} (positive : 0 < size)
    (comes : body.comesRound size stop = true) :
    ∃ passes < size, Meets size body.calls passes (body.leavesAt size ((stop + 1) % size)) ∧
      (0 < passes → body.loops = false) := by
  unfold comesRound at comes
  unfold leavesAt
  cases resets : body.loops with
  | true =>
      simp only [resets, if_true, Bool.or_eq_true, decide_eq_true_iff] at comes
      have same : body.calls % size ≡ body.calls [MOD size] := Nat.mod_modEq _ _
      refine ⟨0, positive, ?_, nofun⟩
      unfold Meets
      rw [if_pos rfl, Nat.zero_mul, Nat.add_zero, Nat.add_zero]
      exact comes.imp (same.dvd_iff dvd_rfl).mpr ((same.add_right 1).dvd_iff dvd_rfl).mpr
  | false =>
      simp only [resets, Bool.false_eq_true, if_false, Bool.or_eq_true, decide_eq_true_iff] at comes
      obtain ⟨passes, few, meets⟩ := exists_meets positive comes
      exact ⟨passes, few, (meets_succ size body.calls passes stop).mp meets, fun _ => rfl⟩

/-- The stops at which a loop asks over a body that does not come round. -/
theorem asks_of_not_comesRound {stop : Nat} (positive : 0 < size)
    (never : ¬body.comesRound size stop = true) :
    ∃ Asks : Nat → Prop,
      (∀ stop, Asks stop → stop ≠ 0 ∧ (stop + 1) % size ≠ 0 ∧
        Asks (body.leavesAt size ((stop + 1) % size))) ∧
      Asks (body.leavesAt size ((stop + 1) % size)) := by
  unfold comesRound at never
  unfold leavesAt
  cases resets : body.loops with
  | true =>
      simp only [resets, if_true, Bool.or_eq_true, decide_eq_true_iff, not_or,
        Nat.dvd_iff_mod_eq_zero] at never
      refine ⟨(· = body.calls % size), ?_, rfl⟩
      rintro _ rfl
      exact ⟨never.1, by rw [Nat.mod_add_mod]; exact never.2, rfl⟩
  | false =>
      simp only [resets, Bool.false_eq_true, if_false, Bool.or_eq_true, decide_eq_true_iff] at never
      simp only [Bool.false_eq_true, if_false]
      refine ⟨fun stop => stop < size ∧ ∀ passes, ¬Meets size body.calls passes stop, ?_,
        Nat.mod_lt _ positive, fun passes meets => ?_⟩
      · rintro stop ⟨below, apart⟩
        obtain ⟨notZero, notLast⟩ := not_or.mp ((meets_zero below).not.mp (apart 0))
        exact ⟨notZero, notLast, Nat.mod_lt _ positive, fun passes meets =>
          apart (passes + 1) ((meets_succ size body.calls passes stop).mpr meets)⟩
      · exact never (dvd_of_meets ((meets_succ size body.calls passes stop).mpr meets))

/-- Where no loop stands outside of all bodies, there is nothing that might not end. -/
theorem loopsEnd_of_loops {part : Section} (none : part.loops = false) (stop : Nat) :
    part.loopsEnd size stop = true := by
  induction part generalizing stop with
  | endsAt last => rfl
  | text content next ih => exact ih none stop
  | call name offset next ih => exact ih none _
  | block name offset body next _ ih =>
      obtain ⟨other, none⟩ := Bool.or_eq_false_iff.mp none
      have named : Widget.ofName? name ≠ some .files := by simpa using other
      simp [loopsEnd, named, ih none stop]

end
end Section

section
variable {ε ω : Type}

/-- The state of a host as a dial with so many stops. Every call of `files` moves on by one, except that a
loop does nothing where it finds the dial at 0; it asks for its body unless the dial is at 0 then. The
guard of a loop looks at more than the stop, so `settled` is a state in which it tells 0 rightly. -/
structure Dial (host : Host ε ω) (size : Nat) (At : (settled : Bool) → Nat → ω → Prop) : Prop where
  forget : ∀ {stop world}, At true stop world → At false stop world
  below : ∀ {settled stop world}, At settled stop world → stop < size
  write : ∀ {settled stop bytes world later}, host.write bytes world = (.ok (), later) →
    At settled stop world → At settled stop later
  quiet : ∀ {widget settled stop again world later}, widget.repeats = false →
    host.call widget false world = (.ok again, later) → At settled stop world →
      again = false ∧ At settled stop later
  files : ∀ {repeating stop again world later},
    host.call .files repeating world = (.ok again, later) → At repeating stop world →
      if repeating = true ∧ stop = 0 ∨ (stop + 1) % size = 0 then again = false ∧ At true 0 later
      else again = true ∧ At true ((stop + 1) % size) later

section
variable {host : Host ε ω} {size : Nat} {At : Bool → Nat → ω → Prop} (dial : Dial host size At)
include dial

theorem Dial.settle (settled : Bool) {stop : Nat} {world : ω} (at' : At true stop world) :
    At settled stop world := by
  cases settled with
  | true => exact at'
  | false => exact dial.forget at'

theorem Dial.loosen {settled : Bool} {stop : Nat} {world : ω} (here : At settled stop world) :
    At false stop world := by
  cases settled with
  | true => exact dial.forget here
  | false => exact here

/-- A call without a body moves on by one. -/
theorem Dial.call {settled again : Bool} {stop : Nat} {world later : ω}
    (called : host.call .files false world = (.ok again, later)) (here : At settled stop world) :
    At settled ((stop + 1) % size) later := by
  have moved := dial.files called (dial.loosen here)
  refine dial.settle settled ?_
  split at moved
  · next done =>
    rw [done.resolve_left (by simp)]
    exact moved.2
  · exact moved.2

namespace Section

variable {pass : Bool → Stage ω → Rendered ε ω}

/-- A loop of `files` that comes to its end leaves the dial at 0. -/
theorem renderPasses_lands
    (seen : ∀ stop (stage : Stage ω), At true stop stage.world →
      (pass false stage).Lands fun world => ∃ stop, At true stop world)
    (unseen : ∀ stage : Stage ω, (pass true stage).Idle stage.world) (bound : Nat) (repeating : Bool)
    {stop : Nat} {stage : Stage ω} (here : At repeating stop stage.world) :
    (renderPasses host .files pass bound repeating stage).Lands (At true 0) := by
  induction bound generalizing repeating stop stage with
  | zero =>
      rw [renderPasses_eq]
      refine Stage.ask_ends fun again later called => ?_
      have moved := dial.files called here
      split at moved
      · obtain ⟨rfl, zero⟩ := moved
        exact (Rendered.Arrives.of_idle (unseen _) zero).lands
      · obtain ⟨rfl, _⟩ := moved
        exact nofun
  | succ bound ih =>
      rw [renderPasses_eq]
      refine Stage.ask_ends fun again later called => ?_
      have moved := dial.files called here
      split at moved
      · obtain ⟨rfl, zero⟩ := moved
        exact (Rendered.Arrives.of_idle (unseen _) zero).lands
      · obtain ⟨rfl, onward⟩ := moved
        refine (seen _ { stage with world := later } onward).unlessTruncated fun stage' after => ?_
        obtain ⟨stop', there⟩ := after
        exact ih true there

theorem renderBody_files (limit : Limit ω) {body : Section} (depth : Nat)
    (inner : ∀ stop (stage : Stage ω), At true stop stage.world →
      (body.render host limit (depth + 1) false stage).Lands fun world => ∃ stop, At true stop world)
    {settled : Bool} {stop : Nat} {stage : Stage ω} (here : At settled stop stage.world) :
    (body.renderBody host limit depth false (some .files) stage).Lands (At settled 0) := by
  have seen (stop : Nat) (stage : Stage ω) (there : At true stop stage.world) :
      (body.renderPass host limit depth false stage).Lands fun world => ∃ stop, At true stop world :=
    inner stop _ (by rwa [Stage.reportDepth_world])
  have zero := renderPasses_lands dial seen (renderPass_silent host limit depth body)
    (limit .files stage.world) false (dial.loosen here)
  exact zero.mono fun world => dial.settle settled

/-- A body that is not of `files` is gone through in silence and leaves the dial as it is. -/
theorem renderBody_other (limit : Limit ω) (body : Section) {name : String}
    (others : ∀ widget, Widget.ofName? name = some widget → widget ≠ .files → widget.repeats = false)
    (other : Widget.ofName? name ≠ some .files) (depth : Nat) {settled : Bool} {stop : Nat}
    {stage : Stage ω} (here : At settled stop stage.world) :
    (body.renderBody host limit depth false (Widget.ofName? name) stage).Arrives (At settled stop) := by
  unfold renderBody
  cases named : Widget.ofName? name with
  | none => exact .of_idle (renderPass_silent host limit depth body stage) here
  | some widget =>
      have apart : widget ≠ .files := fun same => other (same ▸ named)
      simp only [Bool.false_eq_true, if_false]
      rw [renderPasses_eq]
      refine Stage.ask_arrives fun again later called => ?_
      obtain ⟨rfl, kept⟩ := dial.quiet (others widget named apart) called here
      exact .of_idle (renderPass_silent host limit depth body _) kept

/-- Where the dial is behind a section. -/
theorem render_lands (limit : Limit ω) {part : Section} (plain : part.repeatsFilesOnly = true)
    (depth : Nat) {settled : Bool} {stop : Nat} {stage : Stage ω}
    (here : At settled stop stage.world) :
    (part.render host limit depth false stage).Lands (At settled (part.leavesAt size stop)) := by
  induction part generalizing depth settled stop stage with
  | endsAt last =>
      have still : At settled ((endsAt last).leavesAt size stop) stage.world := by
        rwa [leavesAt_endsAt last (dial.below here)]
      cases last with
      | unterminated offset rest => exact Stage.write_lands rest fun _ _ => .cut _
      | cutShort => exact .cut stage
      | endOfText => exact .of_world .finished still
      | closing => exact .of_world .finished still
      | separator => exact .of_world .sectionBoundary still
  | text content next ih =>
      exact Stage.write_lands content fun later written => ih plain depth (dial.write written here)
  | call name offset next ih =>
      obtain ⟨others, onward⟩ := repeatsFilesOnly_call plain
      have noted : At settled stop (stage.noteName name offset).world := by
        rwa [Stage.noteName_world]
      rw [render_call]
      cases named : Widget.ofName? name with
      | none =>
          rw [leavesAt_call_other (by simp [named])]
          exact ih onward depth noted
      | some widget =>
          refine Stage.ask_ends fun again later called => ?_
          by_cases same : widget = .files
          · subst same
            rw [leavesAt_call_files named]
            exact ih onward depth (dial.call called noted)
          · rw [leavesAt_call_other (by simp [named, same])]
            exact ih onward depth (dial.quiet (others widget named same) called noted).2
  | block name offset body next body_ih ih =>
      obtain ⟨others, inner, outer⟩ := repeatsFilesOnly_block plain
      have noted : At settled stop (stage.noteName name offset).world := by
        rwa [Stage.noteName_world]
      rw [render_block]
      by_cases named : Widget.ofName? name = some .files
      · rw [leavesAt_block_files named, named]
        have zero := renderBody_files dial limit depth
          (fun stop stage there => (body_ih inner (depth + 1) there).mono fun _ after => ⟨_, after⟩)
          noted
        exact zero.unlessTruncated fun stage' after => ih outer depth after
      · rw [leavesAt_block_other named]
        exact (renderBody_other dial limit body others named depth noted).lands.unlessTruncated
          fun stage' after => ih outer depth after

/-- A loop that has begun comes to its end within so many passes as bring the dial to 0, or to the stop
before. -/
theorem renderPasses_meets (passes calls : Nat)
    (seen : 0 < passes → ∀ stop (stage : Stage ω), At true stop stage.world →
      (pass false stage).Arrives (At true ((stop + calls) % size)))
    (unseen : ∀ stage : Stage ω, (pass true stage).Idle stage.world) {bound : Nat}
    (within : passes ≤ bound) {stop : Nat} {stage : Stage ω} (here : At true stop stage.world)
    (meets : Meets size calls passes stop) :
    (renderPasses host .files pass bound true stage).Arrives (At true 0) := by
  induction passes generalizing bound stop stage with
  | zero =>
      have done := (meets_zero (dial.below here)).mp meets
      rw [renderPasses_eq]
      refine Stage.ask_arrives fun again later called => ?_
      have moved := dial.files called here
      rw [if_pos (done.imp (⟨rfl, ·⟩) id)] at moved
      obtain ⟨rfl, zero⟩ := moved
      exact .of_idle (unseen _) zero
  | succ passes ih =>
      obtain ⟨bound, rfl⟩ := Nat.exists_eq_succ_of_ne_zero (Nat.ne_zero_of_lt within)
      rw [renderPasses_eq]
      refine Stage.ask_arrives fun again later called => ?_
      have moved := dial.files called here
      split at moved
      · obtain ⟨rfl, zero⟩ := moved
        exact .of_idle (unseen _) zero
      · obtain ⟨rfl, onward⟩ := moved
        have next := seen (Nat.succ_pos passes) _ { stage with world := later } onward
        refine next.unlessTruncated fun stage' there => ?_
        exact ih (fun _ => seen (Nat.succ_pos passes)) (Nat.le_of_succ_le_succ within) there
          ((meets_succ size calls passes stop).mp meets)

/-- A loop of `files` comes to its end if its body does and carries the cursor to the end of the round. -/
theorem renderPasses_comesRound {limit : Limit ω} {body : Section} {depth stop bound : Nat}
    (inner : ∀ stop (stage : Stage ω), At true stop stage.world → body.loopsEnd size stop = true →
      (body.renderPass host limit depth false stage).Arrives (At true (body.leavesAt size stop)))
    (within : size ≤ bound)
    (ends : size ∣ stop + 1 ∨ body.loopsEnd size ((stop + 1) % size) = true ∧
      (body.isWhole = true → body.comesRound size stop = true))
    {stage : Stage ω} (here : At false stop stage.world) :
    (renderPasses host .files (body.renderPass host limit depth) bound false stage).Arrives
      (At true 0) := by
  have unseen := renderPass_silent host limit depth body
  have positive : 0 < size := Nat.zero_lt_of_lt (dial.below here)
  obtain ⟨bound, rfl⟩ := Nat.exists_eq_succ_of_ne_zero (Nat.ne_zero_of_lt (positive.trans_le within))
  rw [renderPasses_eq]
  refine Stage.ask_arrives fun again later called => ?_
  have moved := dial.files called here
  split at moved
  · obtain ⟨rfl, zero⟩ := moved
    exact .of_idle (unseen _) zero
  · next more =>
    obtain ⟨rfl, onward⟩ := moved
    obtain ⟨first, round⟩ := ends.resolve_left fun divides =>
      more (.inr (Nat.mod_eq_zero_of_dvd divides))
    have pass := (inner _ { stage with world := later } onward first).and
      (render_lands_whole limit body (depth + 1) false _)
    refine pass.unlessTruncated fun stage' after => ?_
    obtain ⟨there, whole⟩ := after
    obtain ⟨passes, few, meets, resets⟩ := meets_of_comesRound positive (round whole)
    refine renderPasses_meets dial passes body.calls (fun some stop stage there => ?_) unseen
      (by omega) there meets
    have once := resets some
    rw [show (stop + body.calls) % size = body.leavesAt size stop by simp [leavesAt, once]]
    exact inner stop stage there (loopsEnd_of_loops once stop)

/-- Where every loop comes to its end, so does the rendering, and no loop makes more passes than there are
stops. -/
theorem render_arrives_loopsEnd (limit : Limit ω) (enough : ∀ world, size ≤ limit .files world)
    {part : Section} (plain : part.repeatsFilesOnly = true) (depth : Nat) {settled : Bool} {stop : Nat}
    (ends : part.loopsEnd size stop = true) {stage : Stage ω} (here : At settled stop stage.world) :
    (part.render host limit depth false stage).Arrives (At settled (part.leavesAt size stop)) := by
  refine ⟨?_, render_lands dial limit plain depth here⟩
  suffices arrives : (part.render host limit depth false stage).Arrives fun _ => True from arrives.some
  induction part generalizing depth settled stop stage with
  | endsAt last =>
      cases last with
      | unterminated offset rest => exact Stage.write_arrives false rest nofun fun _ _ => .cut _
      | cutShort => exact .cut stage
      | endOfText => exact .of_world .finished trivial
      | closing => exact .of_world .finished trivial
      | separator => exact .of_world .sectionBoundary trivial
  | text content next ih =>
      exact Stage.write_arrives false content nofun fun later written =>
        ih plain depth ends (dial.write written here)
  | call name offset next ih =>
      obtain ⟨others, onward⟩ := repeatsFilesOnly_call plain
      have noted : At settled stop (stage.noteName name offset).world := by
        rwa [Stage.noteName_world]
      rw [render_call]
      cases named : Widget.ofName? name with
      | none =>
          rw [loopsEnd_call_other (by simp [named])] at ends
          exact ih onward depth ends noted
      | some widget =>
          refine Stage.ask_arrives fun again later called => ?_
          by_cases same : widget = .files
          · subst same
            rw [loopsEnd_call_files named] at ends
            exact ih onward depth ends (dial.call called noted)
          · rw [loopsEnd_call_other (by simp [named, same])] at ends
            exact ih onward depth ends (dial.quiet (others widget named same) called noted).2
  | block name offset body next body_ih ih =>
      obtain ⟨others, inner, outer⟩ := repeatsFilesOnly_block plain
      have noted : At settled stop (stage.noteName name offset).world := by
        rwa [Stage.noteName_world]
      have uncut : (body.renderBody host limit depth false (Widget.ofName? name)
          (stage.noteName name offset)).Lands fun _ => body.isWhole = true :=
        renderBody_lands_whole limit body depth false (Widget.ofName? name) (stage.noteName name offset)
      rw [render_block]
      by_cases named : Widget.ofName? name = some .files
      · obtain ⟨loop, behind⟩ := (loopsEnd_block_files named stop).mp ends
        have seen (stop : Nat) (stage : Stage ω) (there : At true stop stage.world)
            (ends : body.loopsEnd size stop = true) :
            (body.renderPass host limit depth false stage).Arrives
              (At true (body.leavesAt size stop)) := by
          have there : At true stop (stage.reportDepth (depth + 1)).world := by
            rwa [Stage.reportDepth_world]
          exact ⟨(body_ih inner (depth + 1) ends there).some,
            render_lands dial limit inner (depth + 1) there⟩
        have passes := renderPasses_comesRound dial seen
          (enough (stage.noteName name offset).world) loop (dial.loosen noted)
        rw [named] at uncut ⊢
        exact (passes.and uncut).unlessTruncated fun stage' after =>
          ih outer depth (behind after.2) after.1
      · have behind := (loopsEnd_block_other named stop).mp ends
        have passes := renderBody_other dial limit body others named depth noted
        exact (passes.and uncut).unlessTruncated fun stage' after =>
          ih outer depth (behind after.2) after.1

section
variable {Whole : ω → Prop} (obliging : Obliging host Whole)
include obliging

omit dial obliging in
/-- What never comes to an end behind a rendering keeps it from an end too. -/
theorem unlessTruncated_none {Between : ω → Prop} {rendered : Rendered ε ω}
    (holds : rendered.Holds Whole) (uncut : rendered.Ends fun ending _ => ending ≠ .truncated)
    (lands : rendered.Lands Between) {next : Stage ω → Rendered ε ω}
    (never : ∀ stage : Stage ω, Between stage.world → Whole stage.world → next stage = none) :
    rendered.unlessTruncated next = none := by
  rcases rendered with _ | ⟨result, stage⟩
  · rfl
  · obtain ⟨⟨ending, rfl⟩, whole⟩ := holds _ _ rfl
    have passed := uncut _ _ rfl
    rw [Rendered.unlessTruncated_ok passed]
    exact never stage (lands _ _ rfl passed) whole

/-- Away from 0 and from the stop before, `files` asks for its body. -/
theorem files_asks (pass : Bool → Stage ω → Rendered ε ω) {repeating : Bool} {stop : Nat} {stage : Stage ω}
    (here : At repeating stop stage.world) (whole : Whole stage.world)
    (away : ¬(repeating = true ∧ stop = 0 ∨ (stop + 1) % size = 0)) :
    ∃ later : Stage ω, At true ((stop + 1) % size) later.world ∧ Whole later.world ∧
      ∀ bound, renderPasses host .files pass bound repeating stage =
        match bound with
        | 0 => none
        | bound + 1 =>
            (pass false later).unlessTruncated (renderPasses host .files pass bound true) := by
  obtain ⟨again, later, called, whole'⟩ := obliging.call .files repeating whole
  have moved := dial.files called here
  rw [if_neg away] at moved
  obtain ⟨rfl, there⟩ := moved
  refine ⟨{ stage with world := later }, there, whole', fun bound => ?_⟩
  rw [renderPasses_eq]
  unfold Stage.ask
  rw [called]
  rfl

/-- A loop that never asks at 0 or right before it makes one pass after another. -/
theorem renderPasses_never {Asks : Nat → Prop} {leave : Nat → Nat}
    (onward : ∀ stop, Asks stop → stop ≠ 0 ∧ (stop + 1) % size ≠ 0 ∧ Asks (leave ((stop + 1) % size)))
    (seen : ∀ stop (stage : Stage ω), At true stop stage.world → Whole stage.world →
      (pass false stage).Holds Whole ∧ (pass false stage).Lands (At true (leave stop)) ∧
        (pass false stage).Ends fun ending _ => ending ≠ .truncated)
    (bound : Nat) {stop : Nat} {stage : Stage ω} (here : At true stop stage.world)
    (whole : Whole stage.world) (asks : Asks stop) :
    renderPasses host .files pass bound true stage = none := by
  induction bound generalizing stop stage with
  | zero =>
      obtain ⟨notZero, notLast, _⟩ := onward stop asks
      obtain ⟨later, _, _, unrolled⟩ := files_asks dial obliging pass here whole
        (by simp [notZero, notLast])
      exact unrolled 0
  | succ bound ih =>
      obtain ⟨notZero, notLast, further⟩ := onward stop asks
      obtain ⟨later, there, whole', unrolled⟩ := files_asks dial obliging pass here whole
        (by simp [notZero, notLast])
      obtain ⟨holds, lands, uncut⟩ := seen _ later there whole'
      rw [unrolled]
      exact unlessTruncated_none holds uncut lands fun stage' there whole => ih there whole further

/-- A loop of `files` has no end if its body has none, or carries the cursor past the end of the round for
ever. -/
theorem renderPasses_endless {limit : Limit ω} {body : Section}
    (plain : body.repeatsFilesOnly = true) {depth stop : Nat} (bound : Nat)
    (inner : ∀ stop (stage : Stage ω), At true stop stage.world → Whole stage.world →
      body.loopsEnd size stop = false → body.renderPass host limit depth false stage = none)
    (endless : ¬(size ∣ stop + 1 ∨ body.loopsEnd size ((stop + 1) % size) = true ∧
      (body.isWhole = true → body.comesRound size stop = true)))
    {stage : Stage ω} (here : At false stop stage.world) (whole : Whole stage.world) :
    renderPasses host .files (body.renderPass host limit depth) bound false stage = none := by
  have positive : 0 < size := Nat.zero_lt_of_lt (dial.below here)
  obtain ⟨further, endless⟩ := not_or.mp endless
  have away : ¬((false : Bool) = true ∧ stop = 0 ∨ (stop + 1) % size = 0) := by
    simpa using fun last => further (Nat.dvd_of_mod_eq_zero last)
  obtain ⟨later, there, whole', unrolled⟩ := files_asks dial obliging
    (body.renderPass host limit depth) here whole away
  rw [unrolled]
  cases bound with
  | zero => rfl
  | succ bound =>
      dsimp only
      cases ends : body.loopsEnd size ((stop + 1) % size) with
      | false =>
          rw [inner _ later there whole' ends]
          rfl
      | true =>
          simp only [ends, true_and, Classical.not_imp] at endless
          obtain ⟨uncut, never⟩ := endless
          have seen (stop : Nat) (stage : Stage ω) (there : At true stop stage.world)
              (whole : Whole stage.world) :
              (body.renderPass host limit depth false stage).Holds Whole ∧
                (body.renderPass host limit depth false stage).Lands (At true (body.leavesAt size stop)) ∧
                (body.renderPass host limit depth false stage).Ends
                  fun ending _ => ending ≠ .truncated := by
            have deeper := stage.reportDepth_world (depth + 1)
            refine ⟨render_holds obliging limit body (depth + 1) false (by rwa [deeper]),
              render_lands dial limit plain (depth + 1) (by rwa [deeper]),
              render_whole limit uncut (depth + 1) false _⟩
          obtain ⟨holds, lands, whole''⟩ := seen _ later there whole'
          obtain ⟨Asks, onward, first⟩ := asks_of_not_comesRound positive never
          exact unlessTruncated_none holds whole'' lands fun stage' there whole =>
            renderPasses_never dial obliging onward seen bound there whole first

/-- Where some loop has no end, the rendering has none. -/
theorem render_endless (limit : Limit ω) {part : Section} (plain : part.repeatsFilesOnly = true)
    (depth : Nat) {settled : Bool} {stop : Nat} (endless : part.loopsEnd size stop = false)
    {stage : Stage ω} (here : At settled stop stage.world) (whole : Whole stage.world) :
    part.render host limit depth false stage = none := by
  induction part generalizing depth settled stop stage with
  | endsAt last => cases endless
  | text content next ih =>
      obtain ⟨later, written, whole⟩ := obliging.write (String.ofList content).toUTF8 whole
      unfold render Stage.write
      simp only [Bool.false_eq_true, if_false, written]
      exact ih plain depth endless (dial.write written here) whole
  | call name offset next ih =>
      obtain ⟨others, onward⟩ := repeatsFilesOnly_call plain
      have noted : At settled stop (stage.noteName name offset).world ∧
          Whole (stage.noteName name offset).world := by
        rw [Stage.noteName_world]
        exact ⟨here, whole⟩
      rw [render_call]
      cases named : Widget.ofName? name with
      | none =>
          rw [loopsEnd_call_other (by simp [named])] at endless
          exact ih onward depth endless noted.1 noted.2
      | some widget =>
          obtain ⟨again, later, called, whole⟩ := obliging.call widget false noted.2
          simp only [Bool.false_eq_true, if_false, Stage.ask, called]
          by_cases same : widget = .files
          · subst same
            rw [loopsEnd_call_files named] at endless
            exact ih onward depth endless (dial.call called noted.1) whole
          · rw [loopsEnd_call_other (by simp [named, same])] at endless
            exact ih onward depth endless
              (dial.quiet (others widget named same) called noted.1).2 whole
  | block name offset body next body_ih ih =>
      obtain ⟨others, inner, outer⟩ := repeatsFilesOnly_block plain
      have noted : At settled stop (stage.noteName name offset).world ∧
          Whole (stage.noteName name offset).world := by
        rw [Stage.noteName_world]
        exact ⟨here, whole⟩
      have holds := renderBody_holds obliging limit body depth false (Widget.ofName? name) noted.2
      -- the loop has no end, or what stands behind it has none
      have rest {stop : Nat} (uncut : body.isWhole = true) (behind : next.loopsEnd size stop = false)
          (lands : (body.renderBody host limit depth false (Widget.ofName? name)
            (stage.noteName name offset)).Lands (At settled stop)) :
          (body.renderBody host limit depth false (Widget.ofName? name)
            (stage.noteName name offset)).unlessTruncated
              (fun stage => next.render host limit depth false stage) = none :=
        unlessTruncated_none holds
          (renderBody_ends limit depth (render_whole limit uncut (depth + 1)) false _ _) lands
          fun stage' there whole => ih outer depth behind there whole
      rw [render_block]
      by_cases named : Widget.ofName? name = some .files
      · have loops : ¬_ := fun both => Bool.false_ne_true
          (endless.symm.trans ((loopsEnd_block_files named stop).mpr both))
        have unseen (stop : Nat) (stage : Stage ω) (there : At true stop stage.world)
            (whole : Whole stage.world) (endless : body.loopsEnd size stop = false) :
            body.renderPass host limit depth false stage = none := by
          have deeper := stage.reportDepth_world (depth + 1)
          exact body_ih inner (depth + 1) endless (by rwa [deeper]) (by rwa [deeper])
        by_cases loop : size ∣ stop + 1 ∨ body.loopsEnd size ((stop + 1) % size) = true ∧
          (body.isWhole = true → body.comesRound size stop = true)
        · obtain ⟨uncut, behind⟩ := Classical.not_imp.mp fun behind => loops ⟨loop, behind⟩
          refine rest uncut (by simpa using behind) ?_
          rw [named]
          exact renderBody_files dial limit depth (fun stop stage there =>
            (render_lands dial limit inner (depth + 1) there).mono fun _ after => ⟨_, after⟩) noted.1
        · have never := renderPasses_endless dial obliging inner
            (limit .files (stage.noteName name offset).world) unseen loop (dial.loosen noted.1) noted.2
          rw [named]
          unfold renderBody
          simp only [Bool.false_eq_true, if_false]
          rw [never]
          rfl
      · have behind : ¬_ := fun behind => Bool.false_ne_true
          (endless.symm.trans ((loopsEnd_block_other named stop).mpr behind))
        obtain ⟨uncut, behind⟩ := Classical.not_imp.mp behind
        exact rest uncut (by simpa using behind)
          (renderBody_other dial limit body others named depth noted.1).lands

end

end Section
end
end

section
variable {ε σ : Type}

/-- The stops of the cursor: the entries and the one at which nothing is selected. -/
def Context.stops (context : Context) (arena : Arena) : Nat :=
  ((context.directory.bind arena.get?).map fun snapshot => snapshot.entries.length).getD 0 + 1

/-- The stop that the cursor is at. -/
def Context.stop (context : Context) (arena : Arena) : Nat :=
  ((context.directory.bind arena.get?).map Snapshot.passed).getD 0

/-- The cursor is at a stop of so many; where that is `settled`, it is unset just at the first. -/
def Context.AtStop (context : Context) (size : Nat) (settled : Bool) (stop : Nat) (scene : Scene σ) :
    Prop :=
  context.stops scene.arena = size ∧ context.stop scene.arena = stop ∧
    (settled = true → ∀ snapshot, context.directory.bind scene.arena.get? = some snapshot →
      (snapshot.cursor = .unset ↔ snapshot.passed = 0))

variable {context : Context} {size : Nat}

theorem atStop_of_seen {settled : Bool} {scene : Scene σ} {snapshot : Snapshot}
    (seen : context.directory.bind scene.arena.get? = some snapshot)
    (entries : snapshot.entries.length + 1 = size)
    (told : settled = true → (snapshot.cursor = .unset ↔ snapshot.passed = 0)) :
    context.AtStop size settled snapshot.passed scene := by
  refine ⟨by simpa [Context.stops, seen] using entries, by simp [Context.stop, seen], ?_⟩
  intro settle other seen'
  cases seen.symm.trans seen'
  exact told settle

/-- An answer of `files` moves the cursor on by one stop. -/
theorem answerFiles_atStop {repeating again : Bool} {stop : Nat} {scene later : Scene σ}
    (answered : (answerFiles context repeating : Action ε σ Bool) scene = (.ok again, later))
    (here : context.AtStop size repeating stop scene) :
    if repeating = true ∧ stop = 0 ∨ (stop + 1) % size = 0 then
      again = false ∧ context.AtStop size true 0 later
    else again = true ∧ context.AtStop size true ((stop + 1) % size) later := by
  obtain ⟨rfl, rfl, told⟩ := here
  rcases answerFiles_cases (ε := ε) context repeating scene with
    ⟨still, exhausted⟩ | ⟨id, snapshot, directory, found, unfinished, moved⟩
  · cases still.symm.trans answered
    cases seen : context.directory.bind scene.arena.get? with
    | none =>
        rw [if_pos (.inr (by simp [Context.stops, seen, Nat.mod_one]))]
        exact ⟨rfl, rfl, by simp [Context.stop, seen], fun _ _ other => nomatch seen.symm.trans other⟩
    | some snapshot =>
        obtain ⟨rfl, unset⟩ := exhausted snapshot seen
        have zero := Snapshot.passed_of_unset unset
        rw [if_pos (.inl ⟨rfl, by simp [Context.stop, seen, zero]⟩)]
        refine ⟨rfl, zero ▸ atStop_of_seen seen (by simp [Context.stops, seen]) fun _ => ?_⟩
        exact ⟨fun _ => zero, fun _ => unset⟩
  · cases moved.symm.trans answered
    have seen : context.directory.bind scene.arena.get? = some snapshot := by
      rw [directory, Option.bind_some, found]
    have seen' : context.directory.bind (scene.arena.advance id).2.get? = some snapshot.advance.2 := by
      rw [directory, Option.bind_some, Arena.found_advance found]
    have size : context.stops scene.arena = snapshot.entries.length + 1 := by
      simp [Context.stops, seen]
    have stop : context.stop scene.arena = snapshot.passed := by simp [Context.stop, seen]
    have whole := snapshot.passed_add_coming
    rw [size, stop]
    cases coming : snapshot.comingEntries with
    | nil =>
        rw [coming, List.length_nil, Nat.add_zero] at whole
        have ended := Snapshot.advance_of_nil coming
        rw [ended] at seen' ⊢
        have unset : snapshot.resetCursor.cursor = .unset := rfl
        have zero := Snapshot.passed_of_unset unset
        rw [if_pos (.inr (by rw [whole, Nat.mod_self]))]
        refine ⟨rfl, zero ▸ atStop_of_seen seen' rfl fun _ => ?_⟩
        exact ⟨fun _ => zero, fun _ => unset⟩
    | cons entry rest =>
        rw [coming, List.length_cons] at whole
        have next := Snapshot.passed_advance coming
        have small : (snapshot.passed + 1) % (snapshot.entries.length + 1) = snapshot.passed + 1 :=
          Nat.mod_eq_of_lt (by omega)
        have away : ¬(repeating = true ∧ snapshot.passed = 0 ∨ snapshot.passed + 1 = 0) := by
          rintro (⟨rfl, zero⟩ | last)
          · exact unfinished rfl ((told rfl snapshot seen).mpr zero)
          · omega
        rw [small, if_neg away]
        refine ⟨(Snapshot.advance_of_cons coming).1, next ▸ atStop_of_seen seen' rfl fun _ => ?_⟩
        refine ⟨fun unset => absurd unset (Snapshot.selected_of_cons coming), fun zero => ?_⟩
        omega

theorem dial_scene (sink : Sink ε σ) (context : Context) (size : Nat) :
    Dial (sceneHost sink context) size (context.AtStop size) where
  forget here := ⟨here.1, here.2.1, nofun⟩
  below {settled stop scene} here := by
    obtain ⟨rfl, rfl, _⟩ := here
    unfold Context.stops Context.stop
    cases context.directory.bind scene.arena.get? with
    | none => exact Nat.zero_lt_one
    | some snapshot => exact Nat.lt_succ_of_le (Nat.sub_le _ _)
  write {settled stop bytes scene later} written here := by
    obtain ⟨out, kept⟩ := Action.onlyWrites_writeBytes sink bytes scene
    change Action.writeBytes sink bytes scene = _ at written
    rw [written] at kept
    subst kept
    exact here
  quiet {widget settled stop again scene later} once answered here := by
    change answer sink context widget false scene = _ at answered
    have quiet := quiet_answer sink context once false
    obtain ⟨out, kept⟩ := quiet.writes scene
    have declined := quiet.declines scene
    rw [answered] at kept declined
    subst kept
    exact ⟨by simpa using declined, here⟩
  files answered here := answerFiles_atStop answered here

/-- Where no widget repeats its body but `files`, an expansion ends just if every loop of `files` in it comes
round, as counted from where the cursor is. Calls of `files` without a body can keep it from an end. -/
theorem expand_ends_of_round (sink : Sink ε σ) (context : Context) {template : Template}
    (plain : template.upcoming.1.repeatsFilesOnly = true) (scene : Scene σ) :
    (template.upcoming.1.loopsEnd (context.stops scene.arena) (context.stop scene.arena) = true →
      ∃ fuel result, template.expand (sceneHost sink context) fuel false scene = some result) ∧
    (template.upcoming.1.loopsEnd (context.stops scene.arena) (context.stop scene.arena) = false →
      sink.Accepts scene.out →
      ∀ fuel, template.expand (sceneHost sink context) fuel false scene = none) := by
  have dial := dial_scene sink context (context.stops scene.arena)
  have here : context.AtStop (context.stops scene.arena) false (context.stop scene.arena)
      ((Stage.mk template.diagnostics scene).reportDepth (template.depth + 1)).world := by
    rw [Stage.reportDepth_world]
    exact ⟨rfl, rfl, nofun⟩
  constructor
  · intro ends
    have arrives := Section.render_arrives_loopsEnd dial (fun _ _ => context.stops scene.arena)
      (fun _ => Nat.le_refl _) plain (template.depth + 1) ends here
    obtain ⟨⟨result, stage⟩, rendered⟩ := Option.ne_none_iff_exists'.mp arrives.some
    obtain ⟨fuel, after, ended, _⟩ := expand_of_renderUpcoming _ rendered
    exact ⟨fuel, _, ended⟩
  · intro endless accepts fuel
    cases ended : template.expand (sceneHost sink context) fuel false scene with
    | none => rfl
    | some result =>
        have whole : sink.Accepts
            ((Stage.mk template.diagnostics scene).reportDepth (template.depth + 1)).world.out := by
          rwa [Stage.reportDepth_world]
        have never := Section.render_endless dial (kept_accepts sink context).obliging
          (fun _ _ => fuel) plain (template.depth + 1) endless here whole
        cases (renderUpcoming_of_expand _ ended).1.symm.trans never

/-- With two entries, a body that calls `files` twice goes round and round if its loop starts behind the first
of them. -/
theorem expand_ends_of_round_never :
    let template := withLayout "@(files)@(files)\x7bx@(files)@(files)\x7d" .bodyOnly
    template.upcoming.1.repeatsFilesOnly = true ∧
      ∀ fuel, template.expand (sceneHost Tray.sink ⟨.stock, 0, some 0, none⟩) fuel false
        ⟨⟨[⟨none, none, "", [], [⟨"a", 1, false⟩, ⟨"b", 1, false⟩], .unset, none⟩]⟩, 0,
          .empty .empty none⟩ = none := by
  intro template
  have plain : template.upcoming.1.repeatsFilesOnly = true := by decide +kernel
  have endless : template.upcoming.1.loopsEnd 3 0 = false := by decide +kernel
  exact ⟨plain, (expand_ends_of_round Tray.sink ⟨.stock, 0, some 0, none⟩ plain
    ⟨⟨[⟨none, none, "", [], [⟨"a", 1, false⟩, ⟨"b", 1, false⟩], .unset, none⟩]⟩, 0,
      .empty .empty none⟩).2 endless (Tray.accepts _ rfl)⟩

end
end SiteIndex.Template
