import SiteIndex.Proofs.Template.SeparatorScan
import SiteIndex.Proofs.Template.TwoPhases

/-!
A divided template that is expanded again and again stops behind one separator after another, whatever
each expansion is for and whether or not it is seen, and at last at the end of the text. The stops are
those that the search for separators finds.
-/

namespace SiteIndex.Template

open SiteIndex.Text

/-- What a template is expanded for: a context and a scene with a sink that takes everything. -/
structure Call where
  {ε σ : Type}
  sink : Sink ε σ
  context : Context
  suppressed : Bool
  scene : Scene σ
  accepts : sink.Accepts scene.out

/-- The expansion of a template for this call comes to an end, and leaves all this. -/
def Call.Leaves (call : Call) (template : Template) (result : Except call.ε Ending)
    (after : Template) (later : Scene call.σ) : Prop :=
  ∃ fuel, template.expand (sceneHost call.sink call.context) fuel call.suppressed call.scene =
    some (result, after, later)

/-- Expansions one after another, with their endings, none for a failure, and the positions left. -/
inductive Called : Template → List (Option Ending × Nat) → Prop
  | nil (template : Template) : Called template []
  | cons (call : Call) {template after : Template} {result : Except call.ε Ending}
      {later : Scene call.σ} {log : List (Option Ending × Nat)}
      (leaves : call.Leaves template result after later) (onward : Called after log) :
      Called template ((result.toOption, after.position) :: log)

/-- The template stands in the text of `source`, outside every body, `count` characters on. -/
structure Stands (source : String) (count : Nat) (template : Template) : Prop where
  text : template.source = source
  layout : template.layout = .headBodyTail
  depth : template.depth = 0
  position : template.position = ((Place.start source.toList).skip count).offset

namespace Stands

variable {source : String} {count : Nat} {template : Template}

theorem standing (stands : Stands source count template) :
    template.standing = (Place.start source.toList).skip count := by
  unfold Template.standing
  rw [stands.text, stands.position, Place.at?_start_skip]
  rfl

theorem upcoming (stands : Stands source count template) :
    template.upcoming =
      Section.ahead .headBodyTail 1 ((Place.start source.toList).skip count) := by
  unfold Template.upcoming
  rw [stands.layout, stands.depth, stands.standing]

theorem behind (stands : Stands source count template) :
    ∃ further, template.upcoming.2 = (Place.start source.toList).skip further := by
  obtain ⟨past, behind⟩ := Section.ahead_behind .headBodyTail 1
    ((Place.start source.toList).skip count)
  rw [← stands.upcoming, Place.skip_skip] at behind
  exact ⟨count + past, behind⟩

/-- A call ends as what lies ahead does, and leaves the template behind that. -/
theorem leaves (stands : Stands source count template) {call : Call}
    {result : Except call.ε Ending} {after : Template} {later : Scene call.σ}
    (leaves : call.Leaves template result after later) :
    result = .ok template.upcoming.1.ending ∧ after.position = template.upcoming.2.offset ∧
      ∀ further, template.upcoming.2 = (Place.start source.toList).skip further →
        Stands source further after := by
  obtain ⟨fuel, ended⟩ := leaves
  obtain ⟨⟨ending, rfl⟩, _⟩ := expand_accepted call.accepts ended
  obtain ⟨rfl, arrived⟩ := (renderUpcoming_of_expand _ ended).2 ending rfl
  refine ⟨rfl, by rw [arrived]; rfl, fun further behind => ?_⟩
  rw [arrived]
  exact ⟨stands.text, stands.layout, stands.depth, congrArg Place.offset behind⟩

end Stands

/-- What calls log that stop behind separators at these offsets. -/
def boundaries (offsets : List Nat) : List (Option Ending × Nat) :=
  offsets.map fun offset => (some .sectionBoundary, offset + 2)

theorem Section.ending_of_last {part : Section} (last : part.lastStop ≠ .separator) :
    part.ending = .finished ∨ part.ending = .truncated := by
  unfold ending
  cases stop : part.lastStop with
  | separator => exact absurd stop last
  | _ => simp [Stop.ending]

theorem called_log {source : String} {count : Nat} {template : Template}
    (stands : Stands source count template) {log : List (Option Ending × Nat)}
    (called : Called template log) :
    ∃ final, (final = Ending.finished ∨ final = .truncated) ∧
      log.take ((separatorsAt 0 ((Place.start source.toList).skip count)).length + 1) =
        (boundaries (separatorsAt 0 ((Place.start source.toList).skip count)) ++
          [(some final, source.utf8ByteSize)]).take log.length := by
  induction called generalizing count with
  | nil => exact ⟨.finished, .inl rfl, by simp⟩
  | cons call leaves onward ih =>
      obtain ⟨rfl, position, onto⟩ := stands.leaves leaves
      obtain ⟨further, behind⟩ := stands.behind
      have stands' := onto further behind
      rw [stands.upcoming] at position behind ⊢
      rcases Section.separatorsAt_section ((Place.start source.toList).skip count) with
        ⟨stop, divides⟩ | ⟨divided, unclosed, none⟩
      · obtain ⟨final, ends, rest⟩ := ih stands'
        obtain ⟨found, least⟩ := divides.offset
        refine ⟨final, ends, ?_⟩
        rw [found, position, behind, Section.ending, stop]
        rw [behind] at least
        simp only [boundaries, List.map_cons, List.length_cons, List.cons_append,
          List.take_succ_cons, Nat.sub_add_cancel least] at rest ⊢
        exact congrArg _ rest
      · have atEnd := ((Section.ahead_atEnd .headBodyTail Nat.one_pos
          ((Place.start source.toList).skip count)).resolve_left unclosed).resolve_left divided
        have whole := (Place.start source.toList).offset_skip_add further
        rw [← behind, atEnd] at whole
        refine ⟨_, Section.ending_of_last divided, ?_⟩
        have size : (Section.ahead .headBodyTail 1
            ((Place.start source.toList).skip count)).2.offset = source.utf8ByteSize := by
          rw [← byteSize_eq_utf8ByteSize]
          exact whole.trans (Nat.zero_add _)
        rw [none, position, size]
        simp [boundaries, Except.toOption]

/-- Outside every body and without invocations, a call writes the text up to where it stops. -/
theorem Stands.writes {source : String} {count : Nat} {template : Template}
    (stands : Stands source count template) {call : Call} (seen : call.suppressed = false)
    {result : Except call.ε Ending} {after : Template} {later : Scene call.σ}
    (leaves : call.Leaves template result after later) {text : List Char} {stop : Stop}
    (clear : template.upcoming.1 = Section.pushAll text (.endsAt stop))
    (stops : stop = .separator ∨ stop = .endOfText) :
    Action.writeText call.sink (String.ofList text) call.scene = (.ok (), later) := by
  obtain ⟨fuel, ended⟩ := leaves
  obtain ⟨⟨ending, rfl⟩, _⟩ := expand_accepted call.accepts ended
  have rendered := (renderUpcoming_of_expand _ ended).1
  have still (stage : Stage (Scene call.σ)) :
      (Section.endsAt stop).render (sceneHost call.sink call.context) (fun _ _ => fuel)
        (0 + 1) false stage = some (.ok stop.ending, stage) := by
    rcases stops with rfl | rfl <;> rfl
  have shallow : (Stage.mk template.diagnostics call.scene).reportDepth (0 + 1) =
      ⟨template.diagnostics, call.scene⟩ := rfl
  have written : (sceneHost call.sink call.context).write (String.ofList text).toUTF8 call.scene =
      Action.writeText call.sink (String.ofList text) call.scene := rfl
  unfold renderUpcoming at rendered
  rw [clear, Section.render_pushAll _ (show (Section.endsAt stop).BeginsPlain from trivial), seen,
    stands.depth, shallow] at rendered
  by_cases none : text = []
  · rw [if_pos none, still] at rendered
    simp only [Option.some.injEq, Prod.mk.injEq, Stage.mk.injEq] at rendered
    rw [none, ← rendered.2.2]
    rfl
  · rw [if_neg none] at rendered
    unfold Stage.write at rendered
    simp only [Bool.false_eq_true, if_false, written] at rendered
    revert rendered
    rcases Action.writeText call.sink (String.ofList text) call.scene with ⟨failure | _, scene⟩
    · exact fun rendered => nomatch rendered
    · intro rendered
      dsimp only at rendered
      rw [still] at rendered
      simp only [Option.some.injEq, Prod.mk.injEq, Stage.mk.injEq] at rendered
      rw [rendered.2.2]

/-- The section at a place is read up to the separator behind `text`. -/
structure ReadsTo (place : Place) (text : List Char) (behind : Place) : Prop where
  stop : (Section.ahead .headBodyTail 1 place).1.lastStop = .separator
  onto : (Section.ahead .headBodyTail 1 place).2 = behind
  rest : place.rest = text ++ '~' :: '\n' :: behind.rest

/-- A head, a body and a tail, with the two separators between them, and how they are read. -/
structure Parts (source : String) (head body tail : List Char) : Prop where
  text : source.toList = head ++ ['~', '\n'] ++ body ++ ['~', '\n'] ++ tail
  separators : separators source = [byteSize head, byteSize head + 2 + byteSize body]
  first : ReadsTo (Place.start source.toList) head
    ((Place.start source.toList).skip (head.length + 2))
  second : ReadsTo ((Place.start source.toList).skip (head.length + 2)) body
    ((Place.start source.toList).skip (head.length + 2 + (body.length + 2)))
  third :
    ((Place.start source.toList).skip (head.length + 2 + (body.length + 2))).rest = tail ∧
      (Section.ahead .headBodyTail 1 ((Place.start source.toList).skip
        (head.length + 2 + (body.length + 2)))).1.lastStop ≠ .separator

theorem offset_start_skip {text before behind : List Char} (parts : text = before ++ behind) :
    ((Place.start text).skip before.length).offset = byteSize before := by
  subst parts
  change 0 + byteSize ((before ++ behind).take before.length) = _
  rw [Nat.zero_add, List.take_left]

/-- A text with two separators outside every body is a head, a body and a tail. -/
theorem parts_of_headBodyTail {source : String} (divided : Layout.ofSource source = .headBodyTail) :
    ∃ head body tail, Parts source head body tail := by
  have two : (separatorsAt 0 (Place.start source.toList)).length = 2 := by
    unfold Layout.ofSource at divided
    split at divided
    · next two => exact two
    · cases divided
  have start : separators source = separatorsAt 0 (Place.start source.toList) := rfl
  rcases Section.separatorsAt_section (Place.start source.toList) with
    ⟨stop, head, rest, behind, found⟩ | ⟨_, _, none⟩
  · rcases Section.separatorsAt_section
      (Section.ahead .headBodyTail 1 (Place.start source.toList)).2 with
      ⟨stop', body, rest', behind', found'⟩ | ⟨_, _, none⟩
    · rcases Section.separatorsAt_section (Section.ahead .headBodyTail 1
        (Section.ahead .headBodyTail 1 (Place.start source.toList)).2).2 with
        ⟨stop'', _, _, _, found''⟩ | ⟨last, _, none⟩
      · rw [found, found', found''] at two
        simp at two
      · rw [behind] at stop' rest' behind' found' last none
        rw [Place.skip_skip] at behind'
        rw [behind'] at last none
        have whole : source.toList = head ++ ['~', '\n'] ++ body ++ ['~', '\n'] ++
            ((Place.start source.toList).skip (head.length + 2 + (body.length + 2))).rest := by
          refine rest.trans ?_
          rw [behind, rest', behind']
          simp only [List.append_assoc, List.cons_append, List.nil_append]
        refine ⟨head, body, _, whole, ?_, ⟨stop, behind, behind ▸ rest⟩,
          ⟨stop', behind', behind' ▸ rest'⟩, rfl, last⟩
        have before : source.toList = (head ++ ['~', '\n'] ++ body) ++ (['~', '\n'] ++
            ((Place.start source.toList).skip (head.length + 2 + (body.length + 2))).rest) :=
          whole.trans (by simp only [List.append_assoc])
        have first : ((Place.start source.toList).skip head.length).offset = byteSize head :=
          offset_start_skip rest
        have second := offset_start_skip before
        simp only [List.length_append, List.length_cons, List.length_nil, byteSize_append] at second
        rw [start, found, behind, found', behind', none, first, Place.skip_skip, second]
        rfl
    · rw [found, none] at two
      simp at two
  · rw [none] at two
    simp at two

/-- Whatever it is expanded for, a divided template stops where the search for separators says. One
with two separators is used up by three calls, of which only the last can be cut short; and where
nothing is invoked they write the text without its separators. -/
theorem calls_stop_at_separators (source : String) :
    (∀ log, Called (withLayout source .headBodyTail) log →
      ∃ final, (final = Ending.finished ∨ final = .truncated) ∧
        log.take ((separators source).length + 1) =
          (boundaries (separators source) ++ [(some final, source.utf8ByteSize)]).take
            log.length) ∧
    (Layout.ofSource source = .headBodyTail →
      ∃ head body tail,
        source.toList = head ++ ['~', '\n'] ++ body ++ ['~', '\n'] ++ tail ∧
        separators source = [byteSize head, byteSize head + 2 + byteSize body] ∧
        ∀ (first second third : Call) (result₁ : Except first.ε Ending)
          (result₂ : Except second.ε Ending) (result₃ : Except third.ε Ending)
          (after₁ after₂ after₃ : Template) (later₁ : Scene first.σ) (later₂ : Scene second.σ)
          (later₃ : Scene third.σ),
          first.Leaves (ofSource source) result₁ after₁ later₁ →
          second.Leaves after₁ result₂ after₂ later₂ →
          third.Leaves after₂ result₃ after₃ later₃ →
          (result₁ = .ok .sectionBoundary ∧ after₁.position = byteSize head + 2) ∧
          (result₂ = .ok .sectionBoundary ∧
            after₂.position = byteSize head + 2 + byteSize body + 2) ∧
          ((result₃ = .ok .finished ∨ result₃ = .ok .truncated) ∧
            after₃.position = source.utf8ByteSize) ∧
          (¬['@', '('] <:+: source.toList →
            (first.suppressed = false →
              Action.writeText first.sink (String.ofList head) first.scene = (.ok (), later₁)) ∧
            (second.suppressed = false →
              Action.writeText second.sink (String.ofList body) second.scene = (.ok (), later₂)) ∧
            (third.suppressed = false →
              Action.writeText third.sink (String.ofList tail) third.scene =
                (.ok (), later₃)))) := by
  constructor
  · intro log called
    have stands : Stands source 0 (withLayout source .headBodyTail) :=
      ⟨rfl, rfl, rfl, by rw [Place.skip_zero]; rfl⟩
    have logged := called_log stands called
    rwa [Place.skip_zero] at logged
  · intro divided
    obtain ⟨head, body, tail, parts⟩ := parts_of_headBodyTail divided
    refine ⟨head, body, tail, parts.text, parts.separators, ?_⟩
    intro first second third result₁ result₂ result₃ after₁ after₂ after₃ later₁ later₂ later₃
      leaves₁ leaves₂ leaves₃
    have stands : Stands source 0 (ofSource source) := by
      unfold ofSource
      rw [divided]
      exact ⟨rfl, rfl, rfl, by rw [Place.skip_zero]; rfl⟩
    -- the log of the three calls gives their endings and positions
    obtain ⟨final, ends, logged⟩ := called_log stands
      (.cons first leaves₁ (.cons second leaves₂ (.cons third leaves₃ (.nil after₃))))
    have found : separatorsAt 0 ((Place.start source.toList).skip 0) =
        [byteSize head, byteSize head + 2 + byteSize body] := by
      rw [Place.skip_zero]
      exact parts.separators
    simp only [found, boundaries, List.map_cons, List.map_nil, List.length_cons, List.length_nil,
      List.cons_append, List.nil_append, List.take_succ_cons, List.take_zero, List.cons.injEq,
      Prod.mk.injEq, and_true] at logged
    obtain ⟨⟨end₁, position₁⟩, ⟨end₂, position₂⟩, end₃, position₃⟩ := logged
    have ok {ε : Type} {result : Except ε Ending} {ending : Ending}
        (ended : result.toOption = some ending) : result = .ok ending := by
      cases result <;> cases ended
      rfl
    refine ⟨⟨ok end₁, position₁⟩, ⟨ok end₂, position₂⟩, ⟨?_, position₃⟩, fun clear => ?_⟩
    · rw [ok end₃]
      rcases ends with rfl | rfl
      · exact .inl rfl
      · exact .inr rfl
    · have upcoming := stands.upcoming
      rw [Place.skip_zero] at upcoming
      have stands₁ := (stands.leaves leaves₁).2.2 (head.length + 2)
        (by rw [upcoming, parts.first.onto])
      have stands₂ := (stands₁.leaves leaves₂).2.2 (head.length + 2 + (body.length + 2))
        (by rw [stands₁.upcoming, parts.second.onto])
      have clearFrom (count : Nat) :
          ¬['@', '('] <:+: ((Place.start source.toList).skip count).rest := by
        rw [Place.rest_skip]
        exact fun invoked => clear (invoked.trans (List.drop_suffix _ _).isInfix)
      refine ⟨fun seen => stands.writes seen leaves₁ ?_ (.inl rfl),
        fun seen => stands₁.writes seen leaves₂ ?_ (.inl rfl),
        fun seen => stands₂.writes seen leaves₃ ?_ (.inr rfl)⟩
      · rw [upcoming]
        exact Section.ahead_clear_separator clear parts.first.stop
          (parts.first.onto ▸ parts.first.rest)
      · rw [stands₁.upcoming]
        exact Section.ahead_clear_separator (clearFrom _) parts.second.stop
          (parts.second.onto ▸ parts.second.rest)
      · rw [stands₂.upcoming, ← parts.third.1]
        exact Section.ahead_clear_last (clearFrom _) parts.third.2

/-- A call that is seen, without directory or news and with an empty tray. -/
def trayCall : Call :=
  ⟨Tray.sink, ⟨.stock, 0, none, none⟩, false, ⟨.empty, 0, .empty .empty none⟩, Tray.accepts _ rfl⟩

theorem trayCall_leaves {template after : Template} {ending : Ending} {later : Scene Tray}
    (outermost : template.depth = 0)
    (rendered : template.readAndRender (sceneHost Tray.sink ⟨.stock, 0, none, none⟩) (fun _ _ => 0)
      false ⟨.empty, 0, .empty .empty none⟩ = some (.ok ending, after, later)) :
    trayCall.Leaves template (.ok ending) after later :=
  expand_of_readAndRender trayCall.accepts outermost rendered

theorem calls_stop_at_separators_lines :
    ∃ (first second third : Template) (later₁ later₂ later₃ : Scene Tray),
      trayCall.Leaves (ofSource "a\n~\nb\n~\nc") (.ok .sectionBoundary) first later₁ ∧
      trayCall.Leaves first (.ok .sectionBoundary) second later₂ ∧
      trayCall.Leaves second (.ok .finished) third later₃ ∧
      third.position = 9 ∧
      ∃ head body tail,
        "a\n~\nb\n~\nc".toList = head ++ ['~', '\n'] ++ body ++ ['~', '\n'] ++ tail ∧
        Action.writeText Tray.sink (String.ofList head) trayCall.scene = (.ok (), later₁) ∧
        Action.writeText Tray.sink (String.ofList body) trayCall.scene = (.ok (), later₂) ∧
        Action.writeText Tray.sink (String.ofList tail) trayCall.scene = (.ok (), later₃) := by
  have first : trayCall.Leaves (ofSource "a\n~\nb\n~\nc") (.ok .sectionBoundary)
      ⟨"a\n~\nb\n~\nc", .headBodyTail, 4, 0, 0, #[]⟩
      ⟨.empty, 0, ⟨.empty, "a\n".toUTF8, none⟩⟩ :=
    trayCall_leaves rfl (by cbv)
  have second : trayCall.Leaves ⟨"a\n~\nb\n~\nc", .headBodyTail, 4, 0, 0, #[]⟩
      (.ok .sectionBoundary) ⟨"a\n~\nb\n~\nc", .headBodyTail, 8, 4, 0, #[]⟩
      ⟨.empty, 0, ⟨.empty, "b\n".toUTF8, none⟩⟩ :=
    trayCall_leaves rfl (by cbv)
  have third : trayCall.Leaves ⟨"a\n~\nb\n~\nc", .headBodyTail, 8, 4, 0, #[]⟩
      (.ok .finished) ⟨"a\n~\nb\n~\nc", .headBodyTail, 9, 8, 0, #[]⟩
      ⟨.empty, 0, ⟨.empty, "c".toUTF8, none⟩⟩ :=
    trayCall_leaves rfl (by cbv)
  obtain ⟨head, body, tail, text, -, calls⟩ :=
    (calls_stop_at_separators "a\n~\nb\n~\nc").2 (by cbv)
  obtain ⟨-, -, ⟨-, size⟩, writes⟩ := calls _ _ _ _ _ _ _ _ _ _ _ _ first second third
  obtain ⟨first', second', third'⟩ := writes (by simp [List.infix_cons_iff])
  exact ⟨_, _, _, _, _, _, first, second, third, size, head, body, tail, text, first' rfl,
    second' rfl, third' rfl⟩

end SiteIndex.Template
