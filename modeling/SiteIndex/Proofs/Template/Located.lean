import SiteIndex.Proofs.Template.Landmarks
import SiteIndex.Proofs.Template.SinglePass

/-!
Expansions by offsets. Read by offsets, an expansion is what it is when it is read character by character,
and is never misplaced; wherever it is left, its position and the point that it goes back to are places of
the text, and its diagnostics point at what they tell of.
-/

namespace SiteIndex.Template

open SiteIndex.Text

section
variable {ε ω : Type} {text : List Char}

/-- What there is of a progress when of its place only the offset is known. -/
def Progress.scan (progress : Progress ω) : Scan ω :=
  ⟨progress.place.offset, progress.rewindPoint, progress.depth, progress.diagnostics, progress.world⟩

/-- The expansion of a text has come to a place in it. -/
structure Progress.Located (text : List Char) (progress : Progress ω) : Prop where
  place : ∃ front, progress.place.After text front
  rewindPoint : Boundary text progress.rewindPoint
  diagnostics : ∀ diagnostic ∈ progress.diagnostics, diagnostic.Points text

/-- The outcomes are the same, and what they leave is located. -/
inductive Tallies (text : List Char) : Scanned ε ω → Outcome ε ω → Prop
  | ended (ending : Ending) {progress : Progress ω} (located : progress.Located text) :
      Tallies text (.ended ending progress.scan) (.ended ending progress)
  | failed (failure : ε) {progress : Progress ω} (located : progress.Located text) :
      Tallies text (.failed failure progress.scan) (.failed failure progress)
  | unfinished : Tallies text .unfinished .unfinished

/-- The text before a place, as far as it is not written yet. -/
def Pends (text : List Char) (mark : Nat) (pending : String) (place : Place) : Prop :=
  ∃ front, place.After text (front ++ pending.toList) ∧ byteSize front = mark

namespace Progress.Located

variable {progress : Progress ω} {place : Place} {front : List Char} {diagnostic : Diagnostic}

theorem moveTo (located : progress.Located text) (after : place.After text front) :
    (progress.moveTo place).Located text :=
  ⟨⟨front, after⟩, located.rewindPoint, located.diagnostics⟩

theorem inWorld (located : progress.Located text) (world : ω) :
    ({ progress with world } : Progress ω).Located text :=
  ⟨located.place, located.rewindPoint, located.diagnostics⟩

theorem atDepth (located : progress.Located text) (depth : Nat) :
    ({ progress with depth } : Progress ω).Located text :=
  ⟨located.place, located.rewindPoint, located.diagnostics⟩

theorem leave (located : progress.Located text) : progress.leave.Located text :=
  located.atDepth _

theorem report (located : progress.Located text) (points : diagnostic.Points text) :
    (progress.report diagnostic).Located text where
  place := located.place
  rewindPoint := located.rewindPoint
  diagnostics other within := by
    rcases Array.mem_push.mp within with earlier | rfl
    · exact located.diagnostics other earlier
    · exact points

theorem enter (located : progress.Located text) : progress.enter.Located text := by
  have begun : Boundary text
      (if progress.depth + 1 = 1 then progress.place.offset else progress.rewindPoint) := by
    split
    · obtain ⟨front, after⟩ := located.place
      exact after.boundary
    · exact located.rewindPoint
  have deeper : ({ progress with
      depth := progress.depth + 1
      rewindPoint := if progress.depth + 1 = 1 then progress.place.offset else
        progress.rewindPoint } : Progress ω).Located text :=
    ⟨located.place, begun, located.diagnostics⟩
  unfold Progress.enter
  dsimp only
  split
  · exact deeper.report trivial
  · exact deeper

theorem noteName (located : progress.Located text) {name : String} {offset : Nat}
    (points : (Diagnostic.unknownSymbol name offset).Points text) :
    (progress.noteName name offset).Located text := by
  unfold Progress.noteName
  split
  · exact located.report points
  · exact located

end Progress.Located

theorem Progress.world_scan (progress : Progress ω) : progress.scan.world = progress.world := rfl

theorem Progress.depth_scan (progress : Progress ω) : progress.scan.depth = progress.depth := rfl

theorem Progress.scan_enter (progress : Progress ω) : progress.enter.scan = progress.scan.enter := by
  unfold Progress.enter Scan.enter
  dsimp only [Progress.scan]
  split <;> rfl

theorem Progress.scan_noteName (progress : Progress ω) (name : String) (offset : Nat) :
    (progress.noteName name offset).scan = progress.scan.noteName name offset := by
  unfold Progress.noteName Scan.noteName
  split <;> rfl

theorem Tallies.unlessTruncated {scanned : Scanned ε ω} {outcome : Outcome ε ω}
    (agrees : Tallies text scanned outcome) {cut : Scan ω → Scan ω} {cut' : Progress ω → Progress ω}
    {goOn : Ending → Scan ω → Scanned ε ω} {goOn' : Ending → Progress ω → Outcome ε ω}
    (short : ∀ progress, progress.Located text →
      (cut' progress).Located text ∧ cut progress.scan = (cut' progress).scan)
    (onward : ∀ ending progress, progress.Located text →
      Tallies text (goOn ending progress.scan) (goOn' ending progress)) :
    Tallies text (scanned.unlessTruncated cut goOn) (outcome.unlessTruncated cut' goOn') := by
  cases agrees with
  | ended ending located =>
      cases ending with
      | truncated =>
          obtain ⟨left, same⟩ := short _ located
          have ended : Tallies text _ _ := Tallies.ended (ε := ε) .truncated left
          rw [← same] at ended
          exact ended
      | finished | sectionBoundary => exact onward _ _ located
  | failed failure located => exact .failed failure located
  | unfinished => exact .unfinished

theorem Pends.of_after {place : Place} {front : List Char} (after : place.After text front) :
    Pends text place.offset "" place :=
  ⟨front, by simpa using after, after.offset.symm⟩

theorem Pends.past {mark : Nat} {pending : String} {place : Place} {taken rest : List Char}
    (pends : Pends text mark pending place) (seen : place.rest = taken ++ rest) :
    Pends text mark (pending ++ String.ofList taken) (place.past taken) := by
  obtain ⟨front, after, begun⟩ := pends
  refine ⟨front, ?_, begun⟩
  rw [String.toList_append, String.toList_ofList, ← List.append_assoc]
  exact (after.past seen).1

theorem Pends.afterRun {mark : Nat} {pending : String} {place : Place}
    (pends : Pends text mark pending place) (test : Char → Bool) :
    Pends text mark (pending ++ String.ofList (place.run test)) (place.afterRun test) := by
  have whole : place.rest = place.run test ++ place.rest.dropWhile test :=
    List.takeWhile_append_dropWhile.symm
  exact pends.past whole

theorem Pends.skip {mark : Nat} {pending : String} {place : Place}
    (pends : Pends text mark pending place) (count : Nat) :
    Pends text mark (pending ++ String.ofList (place.rest.take count)) (place.skip count) :=
  pends.past (List.take_append_drop count place.rest).symm

section
variable (host : Host ε ω)

/-- Text that has been passed over is the slice of the text from where it begins. -/
theorem emit_tallies {mark : Nat} {pending : String} {place : Place} (pends : Pends text mark pending place)
    (suppressed : Bool) {progress : Progress ω} (located : progress.Located text)
    {goOn : Scan ω → Scanned ε ω} {goOn' : Progress ω → Outcome ε ω}
    (onward : ∀ world, Tallies text (goOn ({ progress with world } : Progress ω).scan)
      (goOn' { progress with world })) :
    Tallies text (emitSlice host text suppressed mark place.offset progress.scan goOn)
      (emit host suppressed pending progress goOn') := by
  obtain ⟨front, after, begun⟩ := pends
  have nothing : place.offset ≤ mark ↔ pending.isEmpty = true := by
    rw [after.offset, byteSize_append, begun, byteSize_eq_utf8ByteSize, String.isEmpty, beq_iff_eq]
    omega
  have slice : slice? text mark place.offset = some pending.toList := by
    rw [after.offset, ← begun]
    conv => lhs; rw [after.split, List.append_assoc]
    exact slice?_append _ _ _
  unfold emitSlice emit
  by_cases silent : suppressed = true ∨ pending.isEmpty = true
  · rw [if_pos (by simpa [nothing] using silent), if_pos (by simpa using silent)]
    exact onward progress.world
  · rw [if_neg (by simpa [nothing] using silent), if_neg (by simpa using silent), slice]
    dsimp only
    rw [String.ofList_toList, Progress.world_scan]
    rcases host.write pending.toUTF8 progress.world with ⟨failure | _, world⟩
    · exact .failed failure (located.inWorld world)
    · exact onward world

theorem consult_tallies (widget : Option Widget) (suppressed repeating : Bool) {progress : Progress ω}
    (located : progress.Located text) {goOn : Bool → Scan ω → Scanned ε ω}
    {goOn' : Bool → Progress ω → Outcome ε ω}
    (onward : ∀ again world, Tallies text (goOn again ({ progress with world } : Progress ω).scan)
      (goOn' again { progress with world })) :
    Tallies text (consultAt host widget suppressed repeating progress.scan goOn)
      (consult host widget suppressed repeating progress goOn') := by
  unfold consultAt consult
  cases widget with
  | none => exact onward false progress.world
  | some widget =>
      dsimp only
      split
      · exact onward false progress.world
      · rw [Progress.world_scan]
        rcases host.call widget repeating progress.world with ⟨failure | again, world⟩
        · exact .failed failure (located.inWorld world)
        · exact onward again world

theorem ComesUpon.points_unterminated {position : Nat} {here : Place}
    (upon : ComesUpon text position here .unterminated) :
    (Diagnostic.unterminatedInvocation here.offset).Points text := by
  cases upon with
  | special _ _ looks =>
      cases looks with
      | invocation _ _ reads => cases reads with | unterminated _ points => exact points

theorem ComesUpon.points_invocation {position : Nat} {here resume : Place} {name : String}
    {hasBody : Bool} (upon : ComesUpon text position here (.invocation name hasBody resume)) :
    (Diagnostic.unknownSymbol name here.offset).Points text ∧ ∃ front, resume.After text front := by
  cases upon with
  | special _ _ looks =>
      cases looks with
      | invocation _ _ reads =>
          cases reads with | invocation _ _ _ _ after points => exact ⟨points, _, after⟩

/-- The sign that the reader by offsets comes upon decides its step, as it decides the step of an
expansion. -/
theorem scanItems_succ {layout : Layout} {scan : Scan ω} {here : Place} {sign : Sign}
    (upon : ComesUpon text scan.position here sign) (suppressed : Bool) (fuel mark : Nat) :
    scanItems host text layout suppressed (fuel + 1) mark scan =
      match sign.acting layout scan.depth with
      | .plain =>
          scanItems host text layout suppressed fuel mark (scan.moveTo (here.skip 1).offset)
      | .endOfText =>
          emitSlice host text suppressed mark here.offset scan fun scan =>
            .ended .finished (scan.moveTo here.offset).leave
      | .closing =>
          emitSlice host text suppressed mark here.offset scan fun scan =>
            .ended .finished (scan.moveTo (here.skip 1).offset).leave
      | .separator =>
          emitSlice host text suppressed mark here.offset scan fun scan =>
            .ended .sectionBoundary { scan.moveTo (here.skip 2).offset with depth := 0 }
      | .unterminated =>
          emitSlice host text suppressed mark here.offset scan fun scan =>
            emitSlice host text suppressed here.offset (byteSize text)
                (scan.report (.unterminatedInvocation here.offset)) fun scan =>
              .ended .truncated (scan.moveTo (byteSize text)).leave
      | .invocation name true resume =>
          emitSlice host text suppressed mark here.offset scan fun scan =>
            (scanBody host text layout suppressed fuel (Widget.ofName? name) false resume.offset
                (scan.noteName name here.offset)).unlessTruncated Scan.leave fun _ scan =>
              scanItems host text layout suppressed fuel scan.position scan
      | .invocation name false resume =>
          emitSlice host text suppressed mark here.offset scan fun scan =>
            consultAt host (Widget.ofName? name) suppressed false (scan.noteName name here.offset)
              fun _ scan => scanItems host text layout suppressed fuel resume.offset
                (scan.moveTo resume.offset) := by
  rw [scanItems]
  cases upon with
  | endOfText none whole =>
      rw [none, ← whole]
      rfl
  | special found wide looks =>
      rw [found]
      -- a sign that has no effect at this depth is text, and so is a character that is no sign
      cases looks with
      | closing byte =>
          dsimp only
          rw [byte]
          dsimp only
          by_cases deep : 1 < scan.depth
          · rw [if_pos ⟨rfl, deep⟩, Sign.acting, if_pos deep, ← wide]
          · rw [if_neg fun both => deep both.2, if_neg fun both => absurd both.1 (by decide),
              if_neg fun both => absurd both.1 (by decide), Sign.acting, if_neg deep, ← wide]
      | separator byte alone onward =>
          dsimp only
          rw [byte]
          dsimp only
          rw [if_neg fun both => absurd both.1 (by decide), alone]
          by_cases outermost : scan.depth = 1 ∧ layout = .headBodyTail
          · rw [if_pos ⟨rfl, outermost⟩, Sign.acting, if_pos outermost, ← onward]
          · rw [if_neg fun both => outermost both.2, if_neg fun both => absurd both.1 (by decide),
              Sign.acting, if_neg outermost, ← wide]
      | tilde byte beside =>
          dsimp only
          rw [byte]
          dsimp only
          rw [if_neg fun both => absurd both.1 (by decide), beside, ← wide]
          split
          · rfl
          · rw [if_neg fun both => absurd both.1 (by decide)]
            rfl
      | ampersat byte unopened =>
          dsimp only
          rw [byte]
          dsimp only
          rw [if_neg fun both => absurd both.1 (by decide), if_neg fun both => absurd both.1 (by decide),
            if_neg fun both => unopened both.2, ← wide]
          rfl
      | invocation byte opened reads =>
          dsimp only
          rw [byte]
          dsimp only
          rw [if_neg fun both => absurd both.1 (by decide), if_neg fun both => absurd both.1 (by decide),
            if_pos ⟨rfl, opened⟩]
          cases reads with
          | unterminated unclosed points =>
              rw [unclosed]
              rfl
          | invocation closed named braced onward resumes points =>
              rw [closed]
              dsimp only [Sign.acting]
              rw [named]
              dsimp only
              rw [String.ofList_toList]
              split at onward
              · next hasBody =>
                subst hasBody
                simp only [if_pos (braced.mpr rfl), onward]
              · next bodiless =>
                rw [Bool.not_eq_true] at bodiless
                subst bodiless
                simp only [if_neg (mt braced.mp Bool.false_ne_true), onward]

/-- So far both readers do the same. -/
structure TallyFor (text : List Char) (layout : Layout) (fuel : Nat) : Prop where
  items (suppressed : Bool) {mark : Nat} {pending : String} {progress : Progress ω}
    (located : progress.Located text) (pends : Pends text mark pending progress.place) :
    Tallies text (scanItems host text layout suppressed fuel mark progress.scan)
      (expandItems host layout suppressed fuel pending progress)
  body (suppressed : Bool) (widget : Option Widget) (repeating : Bool) {start : Place}
    {front : List Char} {progress : Progress ω} (begun : start.After text front)
    (located : progress.Located text) :
    Tallies text
      (scanBody host text layout suppressed fuel widget repeating start.offset progress.scan)
      (expandBody host layout suppressed fuel widget repeating start progress)

section
variable {host} {layout : Layout} {fuel : Nat} (agree : TallyFor host text layout fuel)
include agree

/-- A call with a body, and what follows it on its level. -/
theorem TallyFor.block (suppressed : Bool) {name : String} {offset : Nat} {resume : Place}
    {front : List Char} {progress : Progress ω} (located : progress.Located text)
    (points : (Diagnostic.unknownSymbol name offset).Points text) (resumes : resume.After text front) :
    Tallies text
      ((scanBody host text layout suppressed fuel (Widget.ofName? name) false resume.offset
          (progress.scan.noteName name offset)).unlessTruncated Scan.leave fun _ scan =>
        scanItems host text layout suppressed fuel scan.position scan)
      ((expandBody host layout suppressed fuel (Widget.ofName? name) false resume
          (progress.noteName name offset)).unlessTruncated Progress.leave fun _ progress =>
        expandItems host layout suppressed fuel "" progress) := by
  rw [← Progress.scan_noteName]
  refine (agree.body suppressed _ false resumes (located.noteName points)).unlessTruncated
    (fun progress left => ⟨left.leave, rfl⟩) fun ending progress left => ?_
  obtain ⟨_, resting⟩ := left.place
  exact agree.items suppressed left (.of_after resting)

/-- A call without a body, and what follows it on its level. -/
theorem TallyFor.call (suppressed : Bool) {name : String} {offset : Nat} {resume : Place}
    {front : List Char} {progress : Progress ω} (located : progress.Located text)
    (points : (Diagnostic.unknownSymbol name offset).Points text) (resumes : resume.After text front) :
    Tallies text
      (consultAt host (Widget.ofName? name) suppressed false (progress.scan.noteName name offset)
        fun _ scan => scanItems host text layout suppressed fuel resume.offset
          (scan.moveTo resume.offset))
      (consult host (Widget.ofName? name) suppressed false (progress.noteName name offset)
        fun _ progress => expandItems host layout suppressed fuel "" (progress.moveTo resume)) := by
  rw [← Progress.scan_noteName]
  have noted := located.noteName points
  exact consult_tallies host _ suppressed false noted fun again world =>
    agree.items suppressed ((noted.inWorld world).moveTo resumes) (.of_after resumes)

theorem TallyFor.items_succ (suppressed : Bool) {mark : Nat} {pending : String}
    {progress : Progress ω} (located : progress.Located text)
    (pends : Pends text mark pending progress.place) :
    Tallies text (scanItems host text layout suppressed (fuel + 1) mark progress.scan)
      (expandItems host layout suppressed (fuel + 1) pending progress) := by
  obtain ⟨front, stands⟩ := located.place
  obtain ⟨after, -⟩ := stands.afterRun fun c => !isSpecial c
  have passed := pends.afterRun fun c => !isSpecial c
  have upon : ComesUpon text progress.scan.position _ _ := comesUpon stands
  rw [expandItems_succ, scanItems_succ host upon, Progress.depth_scan]
  dsimp only
  change (nextSpecial progress.place).After text _ at after
  change Pends text mark _ (nextSpecial progress.place) at passed
  generalize nextSpecial progress.place = here at *
  generalize pending ++ String.ofList (progress.place.run fun c => !isSpecial c) = passedOver at *
  generalize signAt here = sign at upon ⊢
  cases acting : sign.acting layout progress.depth with
  | plain => exact agree.items suppressed (located.moveTo (after.skip 1)) (passed.skip 1)
  | endOfText =>
      exact emit_tallies host passed suppressed located fun world =>
        .ended .finished ((located.inWorld world).moveTo after).leave
  | closing =>
      exact emit_tallies host passed suppressed located fun world =>
        .ended .finished ((located.inWorld world).moveTo (after.skip 1)).leave
  | separator =>
      exact emit_tallies host passed suppressed located fun world =>
        .ended .sectionBoundary (((located.inWorld world).moveTo (after.skip 2)).atDepth 0)
  | unterminated =>
      obtain rfl := Sign.eq_of_acting acting (by simp)
      obtain ⟨ended, none⟩ := after.toEnd
      have rest : Pends text here.offset (String.ofList here.rest) here.toEnd :=
        ⟨_, by rwa [String.toList_ofList], after.offset.symm⟩
      dsimp only
      rw [← ended.offset_of_nil none]
      refine emit_tallies host passed suppressed located fun world => ?_
      have reported := (located.inWorld world).report upon.points_unterminated
      exact emit_tallies host rest suppressed reported fun world =>
        .ended .truncated ((reported.inWorld world).moveTo ended).leave
  | invocation name hasBody resume =>
      obtain rfl := Sign.eq_of_acting acting (by simp)
      obtain ⟨points, behind, resumes⟩ := upon.points_invocation
      cases hasBody with
      | true =>
          exact emit_tallies host passed suppressed located fun world =>
            agree.block suppressed (located.inWorld world) points resumes
      | false =>
          exact emit_tallies host passed suppressed located fun world =>
            agree.call suppressed (located.inWorld world) points resumes

theorem TallyFor.body_succ (suppressed : Bool) (widget : Option Widget) (repeating : Bool)
    {start : Place} {front : List Char} {progress : Progress ω} (begun : start.After text front)
    (located : progress.Located text) :
    Tallies text
      (scanBody host text layout suppressed (fuel + 1) widget repeating start.offset progress.scan)
      (expandBody host layout suppressed (fuel + 1) widget repeating start progress) := by
  rw [expandBody_succ, scanBody]
  refine consult_tallies host widget suppressed repeating located fun again world => ?_
  have entered := ((located.inWorld world).moveTo begun).enter
  have pends : Pends text start.offset "" ({ progress with world }.moveTo start).enter.place := by
    rw [enter_place]
    exact .of_after begun
  have inside := agree.items (suppressed || !again) entered pends
  rw [Progress.scan_enter] at inside
  refine inside.unlessTruncated (fun progress left => ⟨left, rfl⟩) fun ending progress left => ?_
  cases again with
  | true => exact agree.body suppressed widget true begun left
  | false => exact .ended ending left

end

/-- Both readers do the same, however large the allowance. -/
theorem tallyFor (layout : Layout) (fuel : Nat) : TallyFor host text layout fuel := by
  induction fuel with
  | zero =>
      exact ⟨fun _ _ _ _ _ _ => by rw [scanItems, expandItems]; exact .unfinished,
        fun _ _ _ _ _ _ _ _ => by rw [scanBody, expandBody]; exact .unfinished⟩
  | succ fuel agree => exact ⟨agree.items_succ, agree.body_succ⟩

end
end
end SiteIndex.Template
