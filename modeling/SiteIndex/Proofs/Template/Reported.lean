import SiteIndex.Proofs.Template.Invocations
import SiteIndex.Proofs.Template.Sections

/-!
What expansions report of a template is what the search for mistakes finds in it. A loop reports the
names in its body at each of its passes, and the silent pass at the end comes through the whole body
even if the widget has not asked for it, so that every section reports what it names once or several
times over, and in the order in which the text has it.
-/

namespace SiteIndex.Template

open SiteIndex.Text

/-- Lists that come to the same names when each is listed once, whatever is listed before. -/
def SameNames (first second : List String) : Prop :=
  ∀ listed : List String, first.foldl listOnce listed = second.foldl listOnce listed

theorem listOnce_of_mem {names : List String} {name : String} (listed : name ∈ names) :
    listOnce names name = names :=
  if_pos listed

theorem mem_listOnce {names : List String} {name other : String} :
    other ∈ listOnce names name ↔ other ∈ names ∨ other = name := by
  unfold listOnce
  split
  · next listed => exact ⟨.inl, fun either => either.elim id (· ▸ listed)⟩
  · rw [List.mem_append, List.mem_singleton]

theorem mem_foldl_listOnce {names listed : List String} {name : String} :
    name ∈ names.foldl listOnce listed ↔ name ∈ listed ∨ name ∈ names := by
  induction names generalizing listed with
  | nil => simp
  | cons first rest ih => rw [List.foldl_cons, ih, mem_listOnce, List.mem_cons, or_assoc]

theorem foldl_listOnce_of_subset {names listed : List String} (subset : ∀ name ∈ names, name ∈ listed) :
    names.foldl listOnce listed = listed := by
  induction names with
  | nil => rfl
  | cons first rest ih =>
      rw [List.foldl_cons, listOnce_of_mem (subset _ (.head _))]
      exact ih fun name mem => subset name (.tail _ mem)

/-- Listing each name once in the order of first appearance is to strike out the repetitions. -/
theorem foldl_listOnce_eq (names listed : List String) :
    names.foldl listOnce listed = listed ++ (names.filter (· ∉ listed)).eraseDups := by
  induction names generalizing listed with
  | nil => simp
  | cons first rest ih =>
      rw [List.foldl_cons]
      by_cases known : first ∈ listed
      · rw [listOnce_of_mem known, ih, List.filter_cons_of_neg (by simpa using known)]
      · have others : rest.filter (· ∉ listed ++ [first]) =
            (rest.filter (· ∉ listed)).filter fun name => !name == first := by
          rw [List.filter_filter]
          refine List.filter_congr fun name _ => ?_
          simp [not_or, and_comm, beq_eq_decide]
        rw [listOnce, if_neg known, ih, List.filter_cons_of_pos (by simpa using known),
          List.eraseDups_cons, others, List.append_assoc, List.singleton_append]

theorem foldl_listOnce_nil (names : List String) : names.foldl listOnce [] = names.eraseDups := by
  have listed := foldl_listOnce_eq names []
  simp only [List.not_mem_nil, not_false_eq_true, decide_true, List.filter_true,
    List.nil_append] at listed
  exact listed

namespace SameNames

variable {first second third : List String}

theorem refl (names : List String) : SameNames names names := fun _ => rfl

theorem trans (same : SameNames first second) (same' : SameNames second third) :
    SameNames first third :=
  fun listed => (same listed).trans (same' listed)

theorem append {first' second' : List String} (same : SameNames first second)
    (same' : SameNames first' second') : SameNames (first ++ first') (second ++ second') := by
  intro listed
  rw [List.foldl_append, List.foldl_append, same, same']

/-- Names that are listed a second time add nothing. -/
theorem twice (names : List String) : SameNames (names ++ names) names := by
  intro listed
  rw [List.foldl_append]
  exact foldl_listOnce_of_subset fun _ mem => mem_foldl_listOnce.mpr (.inr mem)

end SameNames

/-- The names that no widget goes by. -/
def unknownOf (names : List String) : List String :=
  names.filter fun name => (Widget.ofName? name).isNone

theorem unknownOf_append (first second : List String) :
    unknownOf (first ++ second) = unknownOf first ++ unknownOf second :=
  List.filter_append ..

theorem mistakes_eq (source : String) :
    mistakes source =
      ⟨(unknownOf (invokedIn source.toList).1).eraseDups, (invokedIn source.toList).2⟩ := by
  rw [← foldl_listOnce_nil]
  rfl

namespace Diagnostic

/-- The name that a diagnostic calls unknown. -/
def symbol? : Diagnostic → Option String
  | unknownSymbol name _ => some name
  | _ => none

def isUnterminated : Diagnostic → Bool
  | unterminatedInvocation _ => true
  | _ => false

end Diagnostic

/-- The names reported as unknown, as often as they are reported. -/
def unknownSymbols (diagnostics : Array Diagnostic) : List String :=
  diagnostics.toList.filterMap Diagnostic.symbol?

/-- How often an `@(` without `)` is reported. -/
def unterminatedCount (diagnostics : Array Diagnostic) : Nat :=
  diagnostics.toList.countP Diagnostic.isUnterminated

/-- What is reported between two moments comes to these names, and to an `@(` without `)` if `cut`. -/
structure Reports (before after : Array Diagnostic) (names : List String) (cut : Bool) : Prop where
  symbols : SameNames (unknownSymbols after) (unknownSymbols before ++ unknownOf names)
  unterminated : unterminatedCount after = unterminatedCount before + cut.toNat

namespace Reports

variable {before between after : Array Diagnostic} {names names' : List String} {cut : Bool}

theorem nothing (diagnostics : Array Diagnostic) : Reports diagnostics diagnostics [] false :=
  ⟨by rw [unknownOf, List.filter_nil, List.append_nil]; exact .refl _, rfl⟩

theorem trans (first : Reports before between names false) (second : Reports between after names' cut) :
    Reports before after (names ++ names') cut where
  symbols := by
    rw [unknownOf_append, ← List.append_assoc]
    exact second.symbols.trans (first.symbols.append (.refl _))
  unterminated := by rw [second.unterminated, first.unterminated]; rfl

/-- A pass that reports what the one before it has reported. -/
theorem again (first : Reports before between names false) (second : Reports between after names cut) :
    Reports before after names cut where
  symbols := by
    refine (first.trans second).symbols.trans (.append (.refl _) ?_)
    rw [unknownOf_append]
    exact .twice _
  unterminated := (first.trans second).unterminated

theorem push (diagnostics : Array Diagnostic) (diagnostic : Diagnostic) {names : List String}
    (named : diagnostic.symbol?.toList = unknownOf names) :
    Reports diagnostics (diagnostics.push diagnostic) names diagnostic.isUnterminated where
  symbols := by
    have reported : unknownSymbols (diagnostics.push diagnostic) =
        unknownSymbols diagnostics ++ diagnostic.symbol?.toList := by
      unfold unknownSymbols
      rw [Array.toList_push, List.filterMap_append]
      cases diagnostic <;> rfl
    rw [reported, named]
    exact .refl _
  unterminated := by
    unfold unterminatedCount
    rw [Array.toList_push, List.countP_append]
    cases diagnostic <;> rfl

end Reports

/-- What a rendering leaves behind if it does not fail: the ending, and what has been reported since. -/
def Rendered.Tells {ε ω : Type} (rendered : Rendered ε ω) (ending : Ending)
    (before : Array Diagnostic) (names : List String) (cut : Bool) : Prop :=
  ∀ ending' stage, rendered = some (.ok ending', stage) →
    ending' = ending ∧ Reports before stage.diagnostics names cut

section
variable {ε ω : Type} {host : Host ε ω} {ending : Ending} {before : Array Diagnostic}
  {names : List String} {cut : Bool}

/-- What follows a body tells more, unless the text has been cut short in it. -/
theorem Rendered.Tells.unlessTruncated {rendered : Rendered ε ω} {body : Section}
    (tells : rendered.Tells body.ending before names body.isTruncated)
    {before' : Array Diagnostic} {names' : List String} {next : Stage ω → Rendered ε ω}
    (short : body.isTruncated = true → ∀ after, Reports before after names true →
      ending = .truncated ∧ Reports before' after names' cut)
    (onward : body.isTruncated = false → ∀ stage, Reports before stage.diagnostics names false →
      (next stage).Tells ending before' names' cut) :
    (rendered.unlessTruncated next).Tells ending before' names' cut := by
  intro ending' later after
  rcases rendered with _ | ⟨failure | ending'', stage⟩
  · cases after
  · cases after
  · obtain ⟨rfl, reported⟩ := tells _ _ rfl
    cases truncated : body.isTruncated with
    | true =>
        have stops := body.isTruncated_iff.mp truncated
        rw [stops] at after
        cases after
        obtain ⟨stops, reported⟩ := short truncated _ (truncated ▸ reported)
        exact ⟨stops.symm, reported⟩
    | false =>
        have whole : body.ending ≠ .truncated := by
          rw [ne_eq, ← body.isTruncated_iff, truncated]
          exact Bool.false_ne_true
        rw [Rendered.unlessTruncated_ok whole] at after
        exact onward truncated stage (truncated ▸ reported) _ _ after

namespace Stage

theorem reports_reportDepth (stage : Stage ω) (depth : Nat) :
    Reports stage.diagnostics (stage.reportDepth depth).diagnostics [] false := by
  unfold reportDepth
  split
  · exact .nothing _
  · exact .push _ (.recursionLimit depth) rfl

theorem reports_noteName (stage : Stage ω) (name : String) (offset : Nat) :
    Reports stage.diagnostics (stage.noteName name offset).diagnostics [name] false := by
  have listed : unknownOf [name] = bif (Widget.ofName? name).isNone then [name] else [] :=
    List.filter_singleton
  unfold noteName
  cases known : Widget.ofName? name with
  | some widget =>
      rw [known] at listed
      exact ⟨by rw [listed]; simpa using .refl _, rfl⟩
  | none =>
      rw [known] at listed
      exact .push _ (.unknownSymbol name offset) listed.symm

theorem write_tells {stage : Stage ω} (silent : Bool) (text : List Char)
    {next : Stage ω → Rendered ε ω}
    (onward : ∀ world, (next ⟨stage.diagnostics, world⟩).Tells ending before names cut) :
    (stage.write host silent text next).Tells ending before names cut := by
  unfold Stage.write
  cases silent with
  | true => exact onward stage.world
  | false =>
      rcases host.write (String.ofList text).toUTF8 stage.world with ⟨failure | _, world⟩
      · exact nofun
      · exact onward world

theorem ask_tells {stage : Stage ω} {widget : Widget} {repeating : Bool}
    {next : Bool → Stage ω → Rendered ε ω}
    (onward : ∀ again world,
      (next again ⟨stage.diagnostics, world⟩).Tells ending before names cut) :
    (stage.ask host widget repeating next).Tells ending before names cut := by
  unfold Stage.ask
  rcases host.call widget repeating stage.world with ⟨failure | again, world⟩
  · exact nofun
  · exact onward again world

end Stage

namespace Section

/-- A section as a reader leaves it: behind a body that is cut short nothing more is read. -/
def IsRead : Section → Prop
  | endsAt stop => stop ≠ .cutShort
  | text _ next | call _ _ next => next.IsRead
  | block _ _ body next =>
      body.IsRead ∧ if body.isTruncated then next = endsAt .cutShort else next.IsRead

theorem isRead_pushText {part : Section} (read : part.IsRead) (c : Char) :
    (pushText c part).IsRead := by
  cases part <;> exact read

theorem isRead_pushAll {part : Section} (read : part.IsRead) (chars : List Char) :
    (pushAll chars part).IsRead := by
  induction chars with
  | nil => exact read
  | cons c rest ih => exact isRead_pushText ih c

theorem isRead_ahead (layout : Layout) {depth : Nat} (positive : 0 < depth) (place : Place) :
    (ahead layout depth place).1.IsRead := by
  induction place using Place.forward generalizing depth with
  | reached place onward =>
      rw [ahead_step layout positive]
      cases acting : (signAt place).acting layout depth with
      | endOfText | unterminated | closing | separator => exact nofun
      | plain =>
          exact isRead_pushAll
            (onward _ (.next (rest_pos_of_acting acting (by simp))) positive) _
      | invocation name hasBody resume =>
          have before := before_of_acting acting
          cases hasBody with
          | false => exact onward resume before positive
          | true =>
              have body := onward resume before (Nat.succ_pos depth)
              dsimp only
              split
              · next truncated => exact ⟨body, by rw [if_pos truncated]⟩
              · next whole =>
                  refine ⟨body, ?_⟩
                  rw [if_neg whole]
                  exact onward _ (before_ahead before layout (depth + 1)) positive

/-- All passes report the same, so that it does not matter how many there are. -/
theorem renderPasses_tells {body : Section} {widget : Widget}
    {pass : Bool → Stage ω → Rendered ε ω}
    (onePass : ∀ silent (stage : Stage ω),
      (pass silent stage).Tells body.ending stage.diagnostics body.names body.isTruncated)
    (bound : Nat) (repeating : Bool) (stage : Stage ω) :
    (renderPasses host widget pass bound repeating stage).Tells body.ending stage.diagnostics
      body.names body.isTruncated := by
  induction bound generalizing repeating stage with
  | zero =>
      rw [renderPasses_eq]
      refine Stage.ask_tells fun again world => ?_
      cases again with
      | false => exact onePass true ⟨stage.diagnostics, world⟩
      | true => exact nofun
  | succ bound ih =>
      rw [renderPasses_eq]
      refine Stage.ask_tells fun again world => ?_
      cases again with
      | false => exact onePass true ⟨stage.diagnostics, world⟩
      | true =>
          refine (onePass false ⟨stage.diagnostics, world⟩).unlessTruncated
            (fun truncated after reported => ?_) fun whole between reported => ?_
          · rw [truncated]
            exact ⟨body.isTruncated_iff.mp truncated, reported⟩
          · intro ending later rendered
            obtain ⟨rfl, repeated⟩ := ih true between _ _ rendered
            exact ⟨rfl, reported.again repeated⟩

theorem renderBody_tells (limit : Limit ω) {body : Section} {depth : Nat}
    (onePass : ∀ silent (stage : Stage ω), (body.render host limit (depth + 1) silent stage).Tells
      body.ending stage.diagnostics body.names body.isTruncated)
    (silent : Bool) (widget : Option Widget) (stage : Stage ω) :
    (body.renderBody host limit depth silent widget stage).Tells body.ending stage.diagnostics
      body.names body.isTruncated := by
  have pass (silent : Bool) (stage : Stage ω) :
      (body.renderPass host limit depth silent stage).Tells body.ending stage.diagnostics body.names
        body.isTruncated := by
    intro ending later rendered
    obtain ⟨rfl, reported⟩ := onePass silent _ _ _ rendered
    exact ⟨rfl, (stage.reports_reportDepth (depth + 1)).trans reported⟩
  unfold renderBody
  cases widget with
  | none => exact pass true stage
  | some widget =>
      dsimp only
      split
      · exact pass true stage
      · exact renderPasses_tells pass _ false stage

/-- However it is rendered, a section that has been read reports what it names. -/
theorem render_tells (limit : Limit ω) {part : Section} (read : part.IsRead) (depth : Nat)
    (silent : Bool) (stage : Stage ω) :
    (part.render host limit depth silent stage).Tells part.ending stage.diagnostics part.names
      part.isTruncated := by
  induction part generalizing depth silent stage with
  | endsAt stop =>
      cases stop with
      | unterminated offset rest =>
          refine Stage.write_tells silent rest fun world => ?_
          rintro _ _ ⟨⟩
          exact ⟨rfl, .push _ (.unterminatedInvocation offset) rfl⟩
      | cutShort => exact absurd rfl read
      | endOfText | closing | separator =>
          rintro _ _ ⟨⟩
          exact ⟨rfl, .nothing _⟩
  | text content next ih =>
      exact Stage.write_tells silent content fun world => ih read depth silent ⟨_, world⟩
  | call name offset next ih =>
      have onward (stage' : Stage ω)
          (same : stage'.diagnostics = (stage.noteName name offset).diagnostics) :
          (next.render host limit depth silent stage').Tells next.ending stage.diagnostics
            (name :: next.names) next.isTruncated := by
        intro ending later rendered
        obtain ⟨rfl, reported⟩ := ih read depth silent stage' _ _ rendered
        rw [same] at reported
        exact ⟨rfl, (stage.reports_noteName name offset).trans reported⟩
      rw [render_call]
      split
      · split
        · exact onward _ rfl
        · exact Stage.ask_tells fun _ _ => onward _ rfl
      · exact onward _ rfl
  | block name offset body next body_ih ih =>
      obtain ⟨read, rest⟩ := read
      have noted := stage.reports_noteName name offset
      rw [render_block]
      have passes := renderBody_tells limit
        (fun silent stage => body_ih read (depth + 1) silent stage) silent (Widget.ofName? name)
        (stage.noteName name offset)
      refine passes.unlessTruncated (fun truncated after reported => ?_)
        fun whole between reported => ?_
      · rw [if_pos truncated] at rest
        subst rest
        exact ⟨rfl, by simpa [names, isTruncated, lastStop] using noted.trans reported⟩
      · rw [if_neg (by simp [whole])] at rest
        intro ending later rendered
        obtain ⟨rfl, behind⟩ := ih rest depth silent between _ _ rendered
        exact ⟨rfl, noted.trans (reported.trans behind)⟩

/-- An undivided template is read to its end at once. -/
theorem rest_of_undivided (place : Place) : (ahead .bodyOnly 1 place).2.rest = [] := by
  induction place using Place.forward with
  | reached place onward =>
      rw [ahead_step .bodyOnly Nat.one_pos]
      cases acting : (signAt place).acting .bodyOnly 1 with
      | endOfText => exact rest_of_endOfText (Sign.eq_of_acting acting (by simp))
      | unterminated => simp [Place.toEnd_eq_skip]
      | closing | separator =>
          unfold Sign.acting at acting
          split at acting <;> simp_all
      | plain => exact onward _ (.next (rest_pos_of_acting acting (by simp)))
      | invocation name hasBody resume =>
          have before := before_of_acting acting
          cases hasBody with
          | false => exact onward resume before
          | true =>
              dsimp only
              split
              · next truncated => exact rest_of_isTruncated Nat.two_pos truncated
              · exact onward _ (before_ahead before .bodyOnly 2)

end Section
end

/-- So many expansions of a template, one after another, into sinks that take everything. -/
inductive Expanded (template : Template) : Nat → Template → Prop
  | none : Expanded template 0 template
  | next (call : Call) {count : Nat} {between after : Template} {result : Except call.ε Ending}
      {later : Scene call.σ} (before : Expanded template count between)
      (leaves : call.Leaves between result after later) : Expanded template (count + 1) after

/-- How many sections there are in a text. -/
def sectionCount (source : String) : Layout → Nat
  | .bodyOnly => 1
  | .headBodyTail => (separators source).length + 1

/-- How many sections there are from a place on. -/
def sectionsFrom (place : Place) : Layout → Nat
  | .bodyOnly => 1
  | .headBodyTail => (separatorsAt 0 place).length + 1

/-- Behind a section there is one less, unless the text is at its end. -/
theorem sectionsFrom_ahead (layout : Layout) (place : Place) :
    (Section.ahead layout 1 place).2.rest = [] ∨
      sectionsFrom place layout = sectionsFrom (Section.ahead layout 1 place).2 layout + 1 := by
  cases layout with
  | bodyOnly => exact .inl (Section.rest_of_undivided place)
  | headBodyTail =>
      rcases Section.separatorsAt_section place with ⟨_, divides⟩ | ⟨divided, unclosed, _⟩
      · refine .inr ?_
        unfold sectionsFrom
        dsimp only
        rw [divides.offset.1, List.length_cons]
      · exact .inl (((Section.ahead_atEnd .headBodyTail Nat.one_pos place).resolve_left
          unclosed).resolve_left divided)

/-- The template pauses outside every body, `count` characters into the text of `source`. -/
structure Pauses (source : String) (layout : Layout) (count : Nat) (template : Template) : Prop where
  text : template.source = source
  layout : template.layout = layout
  depth : template.depth = 0
  position : template.position = ((Place.start source.toList).skip count).offset

namespace Pauses

variable {source : String} {layout : Layout} {count : Nat} {template : Template}

theorem start (source : String) (layout : Layout) : Pauses source layout 0 (withLayout source layout) :=
  ⟨rfl, rfl, rfl, by rw [Place.skip_zero]; rfl⟩

theorem upcoming (pauses : Pauses source layout count template) :
    template.upcoming = Section.ahead layout 1 ((Place.start source.toList).skip count) := by
  unfold Template.upcoming standing
  rw [pauses.text, pauses.position, Place.at?_start_skip, pauses.layout, pauses.depth]
  rfl

/-- A call leaves the template behind a section, of which everything has been reported. -/
theorem leaves (pauses : Pauses source layout count template) {call : Call}
    {result : Except call.ε Ending} {after : Template} {later : Scene call.σ}
    (leaves : call.Leaves template result after later) :
    ∃ further, template.upcoming.2 = (Place.start source.toList).skip further ∧
      Pauses source layout further after ∧
      Reports template.diagnostics after.diagnostics template.upcoming.1.names
        template.upcoming.1.isTruncated := by
  obtain ⟨past, behind⟩ := Section.ahead_behind layout 1 ((Place.start source.toList).skip count)
  rw [← pauses.upcoming, Place.skip_skip] at behind
  obtain ⟨fuel, ended⟩ := leaves
  obtain ⟨⟨ending, rfl⟩, _⟩ := expand_accepted call.accepts ended
  obtain ⟨rendered, arrived⟩ := renderUpcoming_of_expand _ ended
  have read : template.upcoming.1.IsRead := by
    rw [pauses.upcoming]
    exact Section.isRead_ahead layout Nat.one_pos _
  obtain ⟨-, reported⟩ := Section.render_tells _ read _ _ _ _ _ rendered
  refine ⟨count + past, behind, ?_, ?_⟩
  · rw [(arrived ending rfl).2]
    exact ⟨pauses.text, pauses.layout, pauses.depth, congrArg Place.offset behind⟩
  · exact (Stage.reports_reportDepth ⟨template.diagnostics, call.scene⟩ _).trans reported

theorem isAtEnd_iff (pauses : Pauses source layout count template) :
    template.isAtEnd = true ↔ ((Place.start source.toList).skip count).rest = [] := by
  have whole := (Place.start source.toList).offset_skip_add count
  change _ = 0 + byteSize source.toList at whole
  rw [Nat.zero_add, byteSize_eq_utf8ByteSize] at whole
  unfold isAtEnd
  rw [decide_eq_true_iff, pauses.text, pauses.position, ← whole]
  cases ((Place.start source.toList).skip count).rest with
  | nil => simp [byteSize]
  | cons c behind =>
      have some : 0 < byteSize (c :: behind) := Nat.lt_add_right _ (Char.utf8Size_pos c)
      simp only [reduceCtorEq, iff_false]
      omega

end Pauses

/-- How far expansions have come: what has been reported, with what the search finds in the rest of the
text, is what it finds in the whole; and each expansion has gone through a section. -/
structure Come (source : String) (layout : Layout) (calls : Nat) (after : Template) (rest : Place) :
    Prop where
  symbols : SameNames (unknownSymbols after.diagnostics ++ unknownOf (invokedIn rest.rest).1)
    (unknownOf (invokedIn source.toList).1)
  unterminated : unterminatedCount after.diagnostics + (invokedIn rest.rest).2.toNat =
    (invokedIn source.toList).2.toNat
  sections : rest.rest = [] ∨ calls + sectionsFrom rest layout = sectionCount source layout

theorem Come.next {source : String} {layout : Layout} {calls : Nat} {between after : Template}
    {place behind : Place} (come : Come source layout calls between place)
    (onto : (Section.ahead layout 1 place).2 = behind)
    (reported : Reports between.diagnostics after.diagnostics (Section.ahead layout 1 place).1.names
      (Section.ahead layout 1 place).1.isTruncated) : Come source layout (calls + 1) after behind := by
  obtain ⟨named, cut⟩ := Section.invokedIn_ahead layout Nat.one_pos place
  rw [onto] at named cut
  refine ⟨?_, ?_, ?_⟩
  · refine .trans ?_ come.symbols
    rw [named, unknownOf_append, ← List.append_assoc]
    exact reported.symbols.append (.refl _)
  · have once : (Section.ahead layout 1 place).1.isTruncated = true →
        (invokedIn behind.rest).2 = false := by
      intro truncated
      rw [← onto, Section.rest_of_isTruncated Nat.one_pos truncated]
      rfl
    rw [← come.unterminated, reported.unterminated, cut, Nat.add_assoc]
    cases truncated : (Section.ahead layout 1 place).1.isTruncated with
    | true => rw [once truncated]; rfl
    | false => simp
  · rcases come.sections with none | left
    · obtain ⟨past, skipped⟩ := Section.ahead_behind layout 1 place
      rw [onto] at skipped
      exact .inl (by rw [skipped, Place.rest_skip, none, List.drop_nil])
    · rcases sectionsFrom_ahead layout place with none | one
      · exact .inl (onto ▸ none)
      · rw [onto] at one
        exact .inr (by omega)

theorem Expanded.comes {source : String} {layout : Layout} {calls : Nat} {after : Template}
    (expanded : Expanded (withLayout source layout) calls after) :
    ∃ count, Pauses source layout count after ∧
      Come source layout calls after ((Place.start source.toList).skip count) := by
  induction expanded with
  | none =>
      refine ⟨0, .start source layout, ?_⟩
      rw [Place.skip_zero]
      exact ⟨.refl _, Nat.zero_add _, .inr (by cases layout <;> exact Nat.zero_add _)⟩
  | next call before leaves ih =>
      obtain ⟨count, pauses, come⟩ := ih
      obtain ⟨further, onto, pauses', reported⟩ := pauses.leaves leaves
      rw [pauses.upcoming] at onto reported
      exact ⟨further, pauses', come.next onto reported⟩

/-- Once the end of the text is reached, which takes as many expansions as there are sections, each
mistake that the search finds has been reported, and no other: the unknown names in the same order, and
an `@(` without `)` once. Nothing depends on what the template is expanded for, or whether it is seen. -/
theorem expansions_report_mistakes (source : String) (layout : Layout) {calls : Nat}
    {after : Template} (expanded : Expanded (withLayout source layout) calls after) :
    (sectionCount source layout ≤ calls → after.isAtEnd = true) ∧
      (after.isAtEnd = true →
        (unknownSymbols after.diagnostics).eraseDups = (mistakes source).unknownNames ∧
        unterminatedCount after.diagnostics = if (mistakes source).unterminated then 1 else 0) := by
  obtain ⟨count, pauses, come⟩ := expanded.comes
  rw [pauses.isAtEnd_iff, mistakes_eq]
  constructor
  · intro enough
    refine come.sections.resolve_right fun left => ?_
    have more : 0 < sectionsFrom ((Place.start source.toList).skip count) layout := by
      cases layout <;> exact Nat.succ_pos _
    omega
  · intro none
    have symbols := come.symbols
    have unterminated := come.unterminated
    rw [none] at symbols unterminated
    constructor
    · have same := symbols []
      rw [foldl_listOnce_nil, foldl_listOnce_nil] at same
      rw [← same]
      simp [invokedIn, invokedNames, unknownOf]
    · change unterminatedCount after.diagnostics = _ at unterminated
      rw [unterminated]
      cases (invokedIn source.toList).2 <;> rfl

theorem expansions_report_mistakes_loop :
    ∃ after, Expanded (withLayout "@(x)\n~\n@(files)\x7b@(y)@(x)\x7d@(" .headBodyTail) 2 after ∧
      after.diagnostics = #[.unknownSymbol "x" 0, .unknownSymbol "y" 16, .unknownSymbol "x" 20,
        .unterminatedInvocation 25] ∧
      after.isAtEnd = true ∧
      (mistakes "@(x)\n~\n@(files)\x7b@(y)@(x)\x7d@(").unknownNames = ["x", "y"] ∧
      (mistakes "@(x)\n~\n@(files)\x7b@(y)@(x)\x7d@(").unterminated = true := by
  have first : trayCall.Leaves (withLayout "@(x)\n~\n@(files)\x7b@(y)@(x)\x7d@(" .headBodyTail)
      (.ok .sectionBoundary)
      ⟨"@(x)\n~\n@(files)\x7b@(y)@(x)\x7d@(", .headBodyTail, 7, 0, 0, #[.unknownSymbol "x" 0]⟩
      ⟨.empty, 0, ⟨.empty, "\n".toUTF8, none⟩⟩ :=
    trayCall_leaves rfl (by cbv)
  have second : trayCall.Leaves
      ⟨"@(x)\n~\n@(files)\x7b@(y)@(x)\x7d@(", .headBodyTail, 7, 0, 0, #[.unknownSymbol "x" 0]⟩
      (.ok .truncated)
      ⟨"@(x)\n~\n@(files)\x7b@(y)@(x)\x7d@(", .headBodyTail, 27, 7, 0, #[.unknownSymbol "x" 0,
        .unknownSymbol "y" 16, .unknownSymbol "x" 20, .unterminatedInvocation 25]⟩
      ⟨.empty, 0, ⟨.empty, "@(".toUTF8, none⟩⟩ :=
    trayCall_leaves rfl (by cbv)
  have expanded := Expanded.next trayCall (.next trayCall .none first) second
  have all := (expansions_report_mistakes _ _ expanded).1 (by cbv)
  obtain ⟨named, cut⟩ := (expansions_report_mistakes _ _ expanded).2 all
  refine ⟨_, expanded, rfl, all, ?_, ?_⟩
  · rw [← named]
    decide
  · by_contra closed
    rw [if_neg closed] at cut
    exact absurd cut (by decide)

end SiteIndex.Template
