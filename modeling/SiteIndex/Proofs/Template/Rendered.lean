import SiteIndex.Proofs.Template.Levels
import SiteIndex.Proofs.Template.Passes

/-!
What renderings have in common. How deep a section lies shows in its diagnostics alone. Where writing
adds to what has been written and nothing takes from it, a section that goes on where another one ends
has written more.
-/

namespace SiteIndex.Template

open SiteIndex.Text

variable {ε ω : Type}

/-- A rendered result without the diagnostics. -/
def Rendered.shown (rendered : Rendered ε ω) : Option (Except ε Ending × ω) :=
  rendered.map fun (result, stage) => (result, stage.world)

theorem Rendered.shown_some (result : Except ε Ending) {stage stage' : Stage ω}
    (same : stage.world = stage'.world) :
    Rendered.shown (some (result, stage)) = Rendered.shown (some (result, stage')) := by
  simp only [shown, Option.map_some, same]

theorem Stage.reportDepth_world (stage : Stage ω) (depth : Nat) :
    (stage.reportDepth depth).world = stage.world := by
  unfold reportDepth
  split <;> rfl

theorem Rendered.shown_unlessTruncated {first second : Rendered ε ω}
    (same : first.shown = second.shown) {next next' : Stage ω → Rendered ε ω}
    (onward : ∀ stage stage' : Stage ω, stage.world = stage'.world →
      (next stage).shown = (next' stage').shown) :
    (first.unlessTruncated next).shown = (second.unlessTruncated next').shown := by
  rcases first with _ | ⟨failure | ending, stage⟩ <;>
    rcases second with _ | ⟨failure' | ending', stage'⟩ <;>
    simp only [shown, Option.map_none, Option.map_some, Option.some.injEq, Prod.mk.injEq,
      Except.ok.injEq, Except.error.injEq, reduceCtorEq, false_and] at same
  · rfl
  · simp only [unlessTruncated, shown, Option.map_some, same]
  · obtain ⟨rfl, world⟩ := same
    cases ending with
    | truncated => simp only [unlessTruncated, shown, Option.map_some, world]
    | _ => exact onward stage stage' world

section
variable (host : Host ε ω)

theorem Stage.shown_write {stage stage' : Stage ω} (same : stage.world = stage'.world)
    (silent : Bool) (text : List Char) {next next' : Stage ω → Rendered ε ω}
    (onward : ∀ stage stage' : Stage ω, stage.world = stage'.world →
      (next stage).shown = (next' stage').shown) :
    (stage.write host silent text next).shown = (stage'.write host silent text next').shown := by
  unfold Stage.write
  rw [← same]
  cases silent with
  | true => exact onward stage stage' same
  | false =>
      simp only [Bool.false_eq_true, if_false]
      split
      · exact onward _ _ rfl
      · rfl

theorem Stage.shown_ask {stage stage' : Stage ω} (same : stage.world = stage'.world)
    (widget : Widget) (repeating : Bool) {next next' : Bool → Stage ω → Rendered ε ω}
    (onward : ∀ again (stage stage' : Stage ω), stage.world = stage'.world →
      (next again stage).shown = (next' again stage').shown) :
    (stage.ask host widget repeating next).shown =
      (stage'.ask host widget repeating next').shown := by
  unfold Stage.ask
  rw [← same]
  split
  · exact onward _ _ _ rfl
  · rfl

namespace Section

theorem shown_renderPasses (widget : Widget) {pass pass' : Bool → Stage ω → Rendered ε ω}
    (alike : ∀ silent (stage stage' : Stage ω), stage.world = stage'.world →
      (pass silent stage).shown = (pass' silent stage').shown)
    (bound : Nat) (repeating : Bool) {stage stage' : Stage ω} (same : stage.world = stage'.world) :
    (renderPasses host widget pass bound repeating stage).shown =
      (renderPasses host widget pass' bound repeating stage').shown := by
  induction bound generalizing repeating stage stage' with
  | zero =>
      rw [renderPasses_eq, renderPasses_eq]
      refine Stage.shown_ask host same widget repeating fun again stage stage' same => ?_
      cases again with
      | false => exact alike true stage stage' same
      | true => rfl
  | succ bound ih =>
      rw [renderPasses_eq, renderPasses_eq]
      refine Stage.shown_ask host same widget repeating fun again stage stage' same => ?_
      cases again with
      | false => exact alike true stage stage' same
      | true =>
          exact Rendered.shown_unlessTruncated (alike false stage stage' same)
            fun _ _ same => ih true same

theorem shown_renderBody (limit : Limit ω) {depth depth' : Nat} {body : Section}
    (alike : ∀ silent {stage stage' : Stage ω}, stage.world = stage'.world →
      (body.render host limit (depth + 1) silent stage).shown =
        (body.render host limit (depth' + 1) silent stage').shown)
    (silent : Bool) (widget : Option Widget) {stage stage' : Stage ω}
    (same : stage.world = stage'.world) :
    (body.renderBody host limit depth silent widget stage).shown =
      (body.renderBody host limit depth' silent widget stage').shown := by
  have pass (silent : Bool) (stage stage' : Stage ω) (same : stage.world = stage'.world) :
      (body.renderPass host limit depth silent stage).shown =
        (body.renderPass host limit depth' silent stage').shown := by
    refine alike silent ?_
    rw [Stage.reportDepth_world, Stage.reportDepth_world, same]
  unfold renderBody
  cases widget with
  | none => exact pass true stage stage' same
  | some widget =>
      dsimp only
      split
      · exact pass true stage stage' same
      · rw [same]
        exact shown_renderPasses host widget pass _ false same

/-- Only the diagnostics tell how deep a section lies. -/
theorem shown_render (limit : Limit ω) (part : Section) (depth depth' : Nat) (silent : Bool)
    {stage stage' : Stage ω} (same : stage.world = stage'.world) :
    (part.render host limit depth silent stage).shown =
      (part.render host limit depth' silent stage').shown := by
  induction part generalizing depth depth' silent stage stage' with
  | endsAt stop =>
      cases stop with
      | unterminated offset rest =>
          refine Stage.shown_write host ?_ silent rest fun _ _ same => Rendered.shown_some _ same
          exact same
      | _ => exact Rendered.shown_some _ same
  | text content next ih =>
      exact Stage.shown_write host same silent content fun _ _ same => ih depth depth' silent same
  | call name offset next ih =>
      have noted : (stage.noteName name offset).world = (stage'.noteName name offset).world := by
        rw [Stage.noteName_world, Stage.noteName_world, same]
      rw [render_call, render_call]
      split
      · split
        · exact ih depth depth' silent noted
        · exact Stage.shown_ask host noted _ false fun _ _ _ same => ih depth depth' silent same
      · exact ih depth depth' silent noted
  | block name offset body next body_ih ih =>
      have noted : (stage.noteName name offset).world = (stage'.noteName name offset).world := by
        rw [Stage.noteName_world, Stage.noteName_world, same]
      rw [render_block, render_block]
      exact Rendered.shown_unlessTruncated
        (shown_renderBody host limit (body_ih (depth + 1) (depth' + 1)) silent _ noted)
        fun _ _ same => ih depth depth' silent same

end Section
end

/-- What a host answers leaves behind: `Whole`, or `Broken` where it has failed. -/
def Leaves {α : Type} (Whole Broken : ω → Prop) : Except ε α × ω → Prop
  | (.ok _, later) => Whole later
  | (.error _, later) => Broken later

/-- What all writes keep, and all calls of the widgets that are allowed. -/
structure Bearing (host : Host ε ω) (allowed : Widget → Prop) (Whole Broken : ω → Prop) : Prop where
  write : ∀ {world} bytes, Whole world → Leaves Whole Broken (host.write bytes world)
  call : ∀ {world} widget repeating, allowed widget → Whole world →
    Leaves Whole Broken (host.call widget repeating world)

theorem Leaves.and {α : Type} {Whole Broken Whole' Broken' : ω → Prop} {answer : Except ε α × ω}
    (left : Leaves Whole Broken answer) (left' : Leaves Whole' Broken' answer) :
    Leaves (fun world => Whole world ∧ Whole' world) (fun world => Broken world ∧ Broken' world)
      answer := by
  rcases answer with ⟨failure | value, later⟩
  · exact ⟨left, left'⟩
  · exact ⟨left, left'⟩

theorem Bearing.and {host : Host ε ω} {allowed : Widget → Prop} {Whole Broken Whole' Broken' : ω → Prop}
    (bearing : Bearing host (fun _ => True) Whole Broken)
    (bearing' : Bearing host allowed Whole' Broken') :
    Bearing host allowed (fun world => Whole world ∧ Whole' world)
      fun world => Broken world ∧ Broken' world where
  write bytes whole := (bearing.write bytes whole.1).and (bearing'.write bytes whole.2)
  call widget repeating own whole :=
    (bearing.call widget repeating trivial whole.1).and (bearing'.call widget repeating own whole.2)

/-- What holds where a rendering has come to an end, or where it has failed. -/
def Rendered.Bears (Whole Broken : ω → Prop) (rendered : Rendered ε ω) : Prop :=
  ∀ result stage, rendered = some (result, stage) → Leaves Whole Broken (result, stage.world)

/-- The widgets that it calls, in bodies too, are all allowed. -/
def Section.Calls (allowed : Widget → Prop) (part : Section) : Prop :=
  ∀ name ∈ part.names, ∀ widget, Widget.ofName? name = some widget → allowed widget

namespace Rendered.Bears

variable {Whole Broken : ω → Prop}

theorem of_world {stage : Stage ω} (ending : Ending) (whole : Whole stage.world) :
    Bears (ε := ε) Whole Broken (some (.ok ending, stage)) := by
  rintro _ _ ⟨⟩
  exact whole

theorem unlessTruncated {rendered : Rendered ε ω} (bears : rendered.Bears Whole Broken)
    {next : Stage ω → Rendered ε ω}
    (onward : ∀ stage : Stage ω, Whole stage.world → (next stage).Bears Whole Broken) :
    (rendered.unlessTruncated next).Bears Whole Broken := by
  rcases rendered with _ | ⟨failure | ending, stage⟩
  · exact nofun
  · exact bears
  · have whole := bears _ _ rfl
    cases ending with
    | truncated => exact of_world .truncated whole
    | _ => exact onward stage whole

end Rendered.Bears

section
variable {host : Host ε ω} {allowed : Widget → Prop} {Whole Broken : ω → Prop}
  (bearing : Bearing host allowed Whole Broken)
include bearing

theorem Stage.write_bears {stage : Stage ω} (silent : Bool) (text : List Char)
    (whole : Whole stage.world) {next : Stage ω → Rendered ε ω}
    (onward : ∀ stage : Stage ω, Whole stage.world → (next stage).Bears Whole Broken) :
    (stage.write host silent text next).Bears Whole Broken := by
  unfold Stage.write
  split
  · exact onward stage whole
  · have written := bearing.write (String.ofList text).toUTF8 whole
    revert written
    rcases host.write (String.ofList text).toUTF8 stage.world with ⟨failure | _, later⟩
    · rintro broken _ _ ⟨⟩
      exact broken
    · exact onward ⟨stage.diagnostics, later⟩

theorem Stage.ask_bears {stage : Stage ω} {widget : Widget} (own : allowed widget) (repeating : Bool)
    (whole : Whole stage.world) {next : Bool → Stage ω → Rendered ε ω}
    (onward : ∀ again (stage : Stage ω), Whole stage.world → (next again stage).Bears Whole Broken) :
    (stage.ask host widget repeating next).Bears Whole Broken := by
  have called := bearing.call widget repeating own whole
  unfold Stage.ask
  revert called
  rcases host.call widget repeating stage.world with ⟨failure | again, later⟩
  · rintro broken _ _ ⟨⟩
    exact broken
  · exact onward again ⟨stage.diagnostics, later⟩

namespace Section

theorem renderPasses_bears {widget : Widget} (own : allowed widget)
    {pass : Bool → Stage ω → Rendered ε ω}
    (onePass : ∀ silent (stage : Stage ω), Whole stage.world → (pass silent stage).Bears Whole Broken)
    (bound : Nat) (repeating : Bool) {stage : Stage ω} (whole : Whole stage.world) :
    (renderPasses host widget pass bound repeating stage).Bears Whole Broken := by
  induction bound generalizing repeating stage with
  | zero =>
      rw [renderPasses_eq]
      refine Stage.ask_bears bearing own repeating whole fun again stage whole => ?_
      cases again with
      | false => exact onePass true stage whole
      | true => exact nofun
  | succ bound ih =>
      rw [renderPasses_eq]
      refine Stage.ask_bears bearing own repeating whole fun again stage whole => ?_
      cases again with
      | false => exact onePass true stage whole
      | true => exact (onePass false stage whole).unlessTruncated fun _ whole => ih true whole

theorem renderBody_bears (limit : Limit ω) {body : Section} (depth : Nat)
    (onePass : ∀ silent (stage : Stage ω), Whole stage.world →
      (body.render host limit (depth + 1) silent stage).Bears Whole Broken)
    (silent : Bool) {widget : Option Widget} (own : ∀ called, widget = some called → allowed called)
    {stage : Stage ω} (whole : Whole stage.world) :
    (body.renderBody host limit depth silent widget stage).Bears Whole Broken := by
  have pass (silent : Bool) (stage : Stage ω) (whole : Whole stage.world) :
      (body.renderPass host limit depth silent stage).Bears Whole Broken :=
    onePass silent _ (by rwa [Stage.reportDepth_world])
  unfold renderBody
  cases widget with
  | none => exact pass true stage whole
  | some widget =>
      dsimp only
      split
      · exact pass true stage whole
      · exact renderPasses_bears bearing (own widget rfl) pass _ false whole

/-- What every write and every call keeps, a rendering keeps. -/
theorem render_bears (limit : Limit ω) {part : Section} (calls : part.Calls allowed) (depth : Nat)
    (silent : Bool) {stage : Stage ω} (whole : Whole stage.world) :
    (part.render host limit depth silent stage).Bears Whole Broken := by
  induction part generalizing depth silent stage with
  | endsAt stop =>
      cases stop with
      | unterminated offset rest =>
          refine Stage.write_bears bearing silent rest ?_ fun _ whole => .of_world _ whole
          exact whole
      | _ => exact .of_world _ whole
  | text content next ih =>
      exact Stage.write_bears bearing silent content whole fun _ whole => ih calls depth silent whole
  | call name offset next ih =>
      obtain ⟨own, onward⟩ := List.forall_mem_cons.mp calls
      have noted : Whole (stage.noteName name offset).world := by rwa [Stage.noteName_world]
      rw [render_call]
      split
      · next widget named =>
        split
        · exact ih onward depth silent noted
        · exact Stage.ask_bears bearing (own widget named) false noted
            fun _ _ whole => ih onward depth silent whole
      · exact ih onward depth silent noted
  | block name offset body next body_ih ih =>
      obtain ⟨own, both⟩ := List.forall_mem_cons.mp calls
      obtain ⟨inner, onward⟩ := List.forall_mem_append.mp both
      have noted : Whole (stage.noteName name offset).world := by rwa [Stage.noteName_world]
      rw [render_block]
      exact (renderBody_bears bearing limit depth
        (fun silent _ whole => body_ih inner _ silent whole) silent own noted).unlessTruncated
          fun _ whole => ih onward depth silent whole

end Section
end

/-- No write fails and no call, and `Whole` holds of all that they leave. -/
structure Obliging (host : Host ε ω) (Whole : ω → Prop) : Prop where
  write : ∀ {world} bytes, Whole world →
    ∃ later, host.write bytes world = (.ok (), later) ∧ Whole later
  call : ∀ {world} widget repeating, Whole world →
    ∃ again later, host.call widget repeating world = (.ok again, later) ∧ Whole later

/-- A rendering that has not failed, if it has a result at all. -/
def Rendered.Holds (Whole : ω → Prop) (rendered : Rendered ε ω) : Prop :=
  ∀ result stage, rendered = some (result, stage) →
    (∃ ending, result = .ok ending) ∧ Whole stage.world

theorem Rendered.Bears.holds {Whole : ω → Prop} {rendered : Rendered ε ω}
    (bears : rendered.Bears Whole fun _ => False) : rendered.Holds Whole := by
  intro result stage ended
  have left := bears result stage ended
  cases result with
  | error failure => exact left.elim
  | ok ending => exact ⟨⟨ending, rfl⟩, left⟩

theorem Bearing.obliging {host : Host ε ω} {Whole : ω → Prop}
    (bearing : Bearing host (fun _ => True) Whole fun _ => False) : Obliging host Whole where
  write := by
    intro world bytes whole
    have written := bearing.write bytes whole
    revert written
    rcases host.write bytes world with ⟨_ | _, later⟩
    · exact False.elim
    · exact fun whole => ⟨later, rfl, whole⟩
  call := by
    intro world widget repeating whole
    have called := bearing.call widget repeating trivial whole
    revert called
    rcases host.call widget repeating world with ⟨_ | again, later⟩
    · exact False.elim
    · exact fun whole => ⟨again, later, rfl, whole⟩

section
variable {host : Host ε ω} {Whole : ω → Prop} (obliging : Obliging host Whole)
include obliging

theorem Obliging.bearing : Bearing host (fun _ => True) Whole fun _ => False where
  write bytes whole := by
    obtain ⟨later, written, whole⟩ := obliging.write bytes whole
    rw [written]
    exact whole
  call widget repeating _ whole := by
    obtain ⟨again, later, called, whole⟩ := obliging.call widget repeating whole
    rw [called]
    exact whole

namespace Section

theorem renderBody_holds (limit : Limit ω) (body : Section) (depth : Nat) (silent : Bool)
    (widget : Option Widget) {stage : Stage ω} (whole : Whole stage.world) :
    (body.renderBody host limit depth silent widget stage).Holds Whole :=
  (renderBody_bears obliging.bearing limit depth
    (fun silent _ => render_bears obliging.bearing limit (fun _ _ _ _ => trivial) _ silent) silent
    (fun _ _ => trivial) whole).holds

/-- A rendering fails only where its host does. -/
theorem render_holds (limit : Limit ω) (part : Section) (depth : Nat) (silent : Bool)
    {stage : Stage ω} (whole : Whole stage.world) :
    (part.render host limit depth silent stage).Holds Whole :=
  (render_bears obliging.bearing limit (fun _ _ _ _ => trivial) depth silent whole).holds

end Section
end

/-- Writing adds to the size of what has been written, and no call takes anything away. -/
structure Gauge (host : Host ε ω) (Whole : ω → Prop) (size : ω → Nat) : Prop where
  obliging : ∀ least, Obliging host fun world => Whole world ∧ least ≤ size world
  written : ∀ {world} bytes, Whole world →
    size (host.write bytes world).2 = size world + bytes.size

section
variable {host : Host ε ω} {Whole : ω → Prop} {size : ω → Nat} (gauge : Gauge host Whole size)
include gauge

namespace Stage

/-- What is written to a stage counts, and whatever comes after it adds to it. -/
theorem write_grows {stage : Stage ω} (text : List Char) (whole : Whole stage.world)
    {next : Stage ω → Rendered ε ω}
    (onward : ∀ least (stage : Stage ω), Whole stage.world ∧ least ≤ size stage.world →
      (next stage).Holds fun world => Whole world ∧ least ≤ size world) :
    (stage.write host false text next).Holds fun world =>
      Whole world ∧ size stage.world + (String.ofList text).toUTF8.size ≤ size world := by
  obtain ⟨later, written, whole', _⟩ :=
    (gauge.obliging 0).write (String.ofList text).toUTF8 ⟨whole, Nat.zero_le _⟩
  have grown := gauge.written (String.ofList text).toUTF8 whole
  rw [written] at grown
  unfold Stage.write
  simp only [Bool.false_eq_true, if_false, written]
  exact onward _ _ ⟨whole', Nat.le_of_eq grown.symm⟩

end Stage

namespace Section

theorem render_adds (limit : Limit ω) (part : Section) (depth : Nat) (least : Nat)
    (stage : Stage ω) (enough : Whole stage.world ∧ least ≤ size stage.world) :
    (part.render host limit depth false stage).Holds fun world => Whole world ∧ least ≤ size world :=
  render_holds (gauge.obliging least) limit part depth false enough

/-- Of two sections of which one goes on where a brace ends the other, it writes more. -/
theorem render_longer (limit : Limit ω) {part longer : Section} (onward : GoesOn part longer)
    (depth : Nat) {stage short long : Stage ω} (whole : Whole stage.world)
    {result result' : Except ε Ending} (uncut : result ≠ .ok .truncated)
    (first : part.render host limit depth false stage = some (result, short))
    (second : longer.render host limit depth false stage = some (result', long)) :
    size short.world < size long.world := by
  have bytes (text : List Char) : (String.ofList text).toUTF8.size = byteSize text :=
    utf8ByteSize_ofList text
  induction onward generalizing stage with
  | here more next =>
      cases first
      have grown := (Stage.write_grows gauge ('\x7d' :: more) whole
        (render_adds gauge limit next depth) _ _ second).2.2
      rw [bytes] at grown
      have brace : 0 < byteSize ('\x7d' :: more) := Nat.lt_add_right _ (Char.utf8Size_pos _)
      omega
  | inText content more next =>
      have grown := (Stage.write_grows gauge (content ++ '\x7d' :: more) whole
        (render_adds gauge limit next depth) _ _ second).2.2
      obtain ⟨later, written, whole', least⟩ :=
        (gauge.obliging 0).write (String.ofList content).toUTF8 ⟨whole, Nat.zero_le _⟩
      have small : size later = size stage.world + (String.ofList content).toUTF8.size := by
        rw [← gauge.written _ whole, written]
      simp only [render, Stage.write, Bool.false_eq_true, if_false, written] at first
      cases first
      rw [bytes] at small
      rw [bytes, byteSize_append] at grown
      have brace : 0 < byteSize ('\x7d' :: more) := Nat.lt_add_right _ (Char.utf8Size_pos _)
      change size later < _
      omega
  | text content onward ih =>
      obtain ⟨later, written, whole', least⟩ :=
        (gauge.obliging 0).write (String.ofList content).toUTF8 ⟨whole, Nat.zero_le _⟩
      simp only [render, Stage.write, Bool.false_eq_true, if_false, written] at first second
      exact ih whole' first second
  | call name offset onward ih =>
      have noted : Whole (stage.noteName name offset).world := by rwa [Stage.noteName_world]
      rw [render_call] at first second
      cases named : Widget.ofName? name with
      | none =>
          rw [named] at first second
          exact ih noted first second
      | some widget =>
          obtain ⟨again, later, called, whole', least⟩ :=
            (gauge.obliging 0).call widget false ⟨noted, Nat.zero_le _⟩
          simp only [named, Bool.false_eq_true, if_false, Stage.ask, called] at first second
          exact ih whole' first second
  | block name offset body onward ih =>
      have noted : Whole (stage.noteName name offset).world := by rwa [Stage.noteName_world]
      rw [render_block] at first second
      have holds := renderBody_holds (gauge.obliging 0) limit body depth false (Widget.ofName? name)
        ⟨noted, Nat.zero_le _⟩
      rcases rendered : body.renderBody host limit depth false (Widget.ofName? name)
        (stage.noteName name offset) with _ | ⟨outcome, after⟩
      · rw [rendered] at first
        cases first
      · obtain ⟨⟨ending, rfl⟩, whole', _⟩ := holds _ _ rendered
        rw [rendered] at first second
        cases ending with
        | truncated =>
            cases first
            exact absurd rfl uncut
        | _ => exact ih whole' first second

end Section
end
end SiteIndex.Template
