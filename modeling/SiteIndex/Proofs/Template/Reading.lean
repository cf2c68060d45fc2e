import SiteIndex.Proofs.Text.Place
import SiteIndex.Template.Expansion
import SiteIndex.Template.Section

/-!
How a section is read into a tree, sign by sign. What stands at a place decides the next step, each
step leaves characters behind, and the reading of a long enough text does not depend on the allowance
of steps. The reader's two questions, whether it is in a body and how the template is divided, are
those that the expansion asks with its depth.
-/

namespace SiteIndex.Template

open SiteIndex.Text

/-- An invocation as the reader of a section looks at it, by the characters after `@(`. -/
theorem invocationAt_opened {place : Place} {opened : List Char}
    (seen : place.rest = '@' :: '(' :: opened) :
    invocationAt place =
      match opened.drop (opened.takeWhile (· != ')')).length with
      | [] => .unterminated
      | _ :: '\x7b' :: _ =>
          .invocation (String.ofList (opened.takeWhile (· != ')'))) true
            (place.skip ((opened.takeWhile (· != ')')).length + 4))
      | _ :: _ =>
          .invocation (String.ofList (opened.takeWhile (· != ')'))) false
            (place.skip ((opened.takeWhile (· != ')')).length + 3)) := by
  have name : (place.skip 2).run isNameChar = opened.takeWhile (· != ')') := by
    simp only [Place.run, Place.rest_skip, seen]
    rfl
  have closed : (place.skip 2).afterRun isNameChar =
      place.skip (2 + (opened.takeWhile (· != ')')).length) := by
    rw [Place.afterRun_eq_skip, name, Place.skip_skip]
  unfold invocationAt
  dsimp only
  rw [name, closed, Place.rest_skip, seen, Nat.add_comm 2, List.drop_succ_cons, List.drop_succ_cons]
  split <;> next found => simp only [found, Place.skip_skip]

/-- What follows an invocation lies ahead. -/
theorem signAt_invocation {place : Place} {name : String} {hasBody : Bool} {resume : Place}
    (invocation : signAt place = .invocation name hasBody resume) : place.Before resume := by
  unfold signAt at invocation
  split at invocation
  case h_2 opened seen =>
      rw [invocationAt_opened seen] at invocation
      split at invocation
      · cases invocation
      all_goals
        cases invocation
        exact ⟨by simp [seen], _, Nat.succ_pos _, rfl⟩
  all_goals (first | cases invocation | (split at invocation <;> cases invocation))

/-- A character that is not special means nothing. -/
theorem signAt_common {place : Place} {c : Char} {rest : List Char}
    (seen : place.rest = c :: rest) (common : isSpecial c = false) : signAt place = .plain := by
  unfold signAt
  simp only [seen]
  split <;> simp_all [isSpecial]

/-- The first character of a run, and the run from the second on. -/
theorem cons_of_run {place : Place} {c : Char} {run : List Char}
    (start : place.run (fun c => !isSpecial c) = c :: run) :
    ∃ rest, place.rest = c :: rest ∧ isSpecial c = false ∧
      (place.skip 1).run (fun c => !isSpecial c) = run := by
  unfold Place.run at start ⊢
  rw [Place.rest_skip]
  cases seen : place.rest with
  | nil => simp [seen] at start
  | cons d rest =>
      rw [seen, List.takeWhile_cons] at start
      split at start
      · next common =>
          obtain ⟨rfl, run⟩ := List.cons.inj start
          exact ⟨rest, rfl, by simpa using common, run⟩
      · cases start

theorem before_of_nextSpecial {place later : Place} (before : (nextSpecial place).Before later) :
    place.Before later := by
  rw [nextSpecial, Place.afterRun_eq_skip] at before
  exact before.of_skip

theorem rest_pos_of_signAt {place : Place} {sign : Sign} (seen : signAt place = sign)
    (more : sign ≠ .endOfText) : 0 < place.rest.length := by
  cases ahead : place.rest with
  | nil => exact absurd (by simp [← seen, signAt, ahead]) more
  | cons c rest => simp

theorem rest_of_endOfText {place : Place} (ended : signAt place = .endOfText) :
    place.rest = [] := by
  unfold signAt at ended
  split at ended
  case h_1 seen => exact seen
  case h_2 opened seen =>
      rw [invocationAt_opened seen] at ended
      split at ended <;> cases ended
  case h_4 => split at ended <;> cases ended
  all_goals cases ended

theorem rest_of_closing {place : Place} (closing : signAt place = .closing) :
    ∃ rest, place.rest = '\x7d' :: rest := by
  unfold signAt at closing
  split at closing
  case h_2 opened seen =>
      rw [invocationAt_opened seen] at closing
      split at closing <;> cases closing
  case h_3 rest seen => exact ⟨rest, seen⟩
  case h_4 => split at closing <;> cases closing
  all_goals cases closing

theorem rest_of_separator {place : Place} (separator : signAt place = .separator) :
    ∃ rest, place.rest = '~' :: '\n' :: rest := by
  unfold signAt at separator
  split at separator
  case h_2 opened seen =>
      rw [invocationAt_opened seen] at separator
      split at separator <;> cases separator
  case h_4 rest seen => exact ⟨rest, seen⟩
  all_goals cases separator

/-- A sign that has an effect where it stands acts as what it is. -/
theorem Sign.eq_of_acting {layout : Layout} {depth : Nat} {sign acted : Sign}
    (acting : sign.acting layout depth = acted) (effective : acted ≠ .plain) : sign = acted := by
  unfold Sign.acting at acting
  split at acting
  · split at acting
    · exact acting
    · exact absurd acting.symm effective
  · split at acting
    · exact acting
    · exact absurd acting.symm effective
  · exact acting

theorem Sign.depth_of_acting_separator {layout : Layout} {depth : Nat} {sign : Sign}
    (separator : sign.acting layout depth = .separator) : depth = 1 := by
  unfold Sign.acting at separator
  split at separator
  · split at separator <;> cases separator
  · split at separator
    · next outermost => exact outermost.1
    · cases separator
  · simp_all

theorem before_of_acting {layout : Layout} {depth : Nat} {place : Place} {name : String}
    {hasBody : Bool} {resume : Place}
    (acting : (signAt place).acting layout depth = .invocation name hasBody resume) :
    place.Before resume :=
  signAt_invocation (Sign.eq_of_acting acting (by simp))

theorem rest_pos_of_acting {layout : Layout} {depth : Nat} {place : Place} {sign : Sign}
    (acting : (signAt place).acting layout depth = sign) (more : sign ≠ .endOfText) :
    0 < place.rest.length := by
  refine rest_pos_of_signAt rfl fun ended => more ?_
  rw [← acting, ended]
  rfl

namespace Section

/-- Puts several characters of text in front. -/
def pushAll (chars : List Char) (part : Section) : Section :=
  chars.foldr pushText part

@[simp] theorem pushAll_nil (part : Section) : pushAll [] part = part := rfl

theorem pushAll_append (first second : List Char) (part : Section) :
    pushAll (first ++ second) part = pushAll first (pushAll second part) :=
  List.foldr_append

/-- A part that does not begin with text, so that text in front of it makes a span of its own. -/
def BeginsPlain : Section → Prop
  | text _ _ => False
  | _ => True

theorem pushAll_beginsPlain {part : Section} (plain : part.BeginsPlain) (chars : List Char) :
    pushAll chars part = if chars = [] then part else text chars part := by
  induction chars with
  | nil => rfl
  | cons c rest ih =>
      change pushText c (pushAll rest part) = _
      rw [ih, if_neg (List.cons_ne_nil c rest)]
      split
      · next empty =>
          subst empty
          cases part <;> first | rfl | exact plain.elim
      · rfl

@[simp] theorem lastStop_pushAll (chars : List Char) (part : Section) :
    (pushAll chars part).lastStop = part.lastStop := by
  induction chars with
  | nil => rfl
  | cons c rest ih =>
      change (pushText c (pushAll rest part)).lastStop = _
      rw [← ih]
      cases pushAll rest part <;> rfl

@[simp] theorem isTruncated_pushAll (chars : List Char) (part : Section) :
    (pushAll chars part).isTruncated = part.isTruncated := by
  rw [isTruncated, lastStop_pushAll, isTruncated]

/-- The step of a reader that takes the next character for text. -/
def readText (layout : Layout) (fuel : Nat) (inBody : Bool) (place : Place) : Section × Place :=
  ((readFrom layout fuel inBody (place.skip 1)).1.pushAll (place.rest.take 1),
    (readFrom layout fuel inBody (place.skip 1)).2)

/-- The step of a reader at an invocation with a body. -/
def readBlock (layout : Layout) (fuel : Nat) (inBody : Bool) (name : String) (offset : Nat)
    (start : Place) : Section × Place :=
  let (body, behind) := readFrom layout fuel true start
  if body.isTruncated then (block name offset body (endsAt .cutShort), behind)
  else
    (block name offset body (readFrom layout fuel inBody behind).1,
      (readFrom layout fuel inBody behind).2)

/-- What stands at the place decides a reader's step. -/
theorem readFrom_succ (layout : Layout) (fuel : Nat) (inBody : Bool) (place : Place) :
    readFrom layout (fuel + 1) inBody place =
      match signAt place with
      | .endOfText => (endsAt .endOfText, place)
      | .unterminated => (endsAt (.unterminated place.offset place.rest), place.toEnd)
      | .invocation name false resume =>
          (call name place.offset (readFrom layout fuel inBody resume).1,
            (readFrom layout fuel inBody resume).2)
      | .invocation name true resume => readBlock layout fuel inBody name place.offset resume
      | .closing =>
          if inBody then (endsAt .closing, place.skip 1) else readText layout fuel inBody place
      | .separator =>
          if layout = .headBodyTail ∧ inBody = false then (endsAt .separator, place.skip 2)
          else readText layout fuel inBody place
      | .plain => readText layout fuel inBody place := by
  rw [readFrom, signAt]
  dsimp only
  split
  case h_1 seen => simp only [seen]
  case h_2 opened seen =>
      simp only [seen, invocationAt_opened seen, Place.toEnd_eq_skip]
      generalize opened.drop (opened.takeWhile (· != ')')).length = closed
      rcases closed with _ | ⟨c, rest⟩
      · rfl
      · by_cases braced : ∃ body, rest = '\x7b' :: body
        · obtain ⟨body, rfl⟩ := braced
          rfl
        · split <;> simp_all
  case h_3 rest seen => simp [readText, seen, pushAll]
  case h_4 rest seen =>
      cases inBody <;> cases place.lineStart <;> simp [readText, seen, pushAll]
  case h_5 c rest _ _ _ seen => simp [readText, seen, pushAll]

/-- A reader only goes forward. -/
theorem readFrom_behind (layout : Layout) (fuel : Nat) (inBody : Bool) (place : Place) :
    ∃ count, (readFrom layout fuel inBody place).2 = place.skip count := by
  induction fuel generalizing inBody place with
  | zero => exact ⟨0, place.skip_zero.symm⟩
  | succ fuel ih =>
      have text : ∃ count, (readText layout fuel inBody place).2 = place.skip count := by
        obtain ⟨count, behind⟩ := ih inBody (place.skip 1)
        exact ⟨1 + count, by rw [readText, behind, Place.skip_skip]⟩
      rw [readFrom_succ]
      split
      case h_1 => exact ⟨0, place.skip_zero.symm⟩
      case h_2 => exact ⟨_, place.toEnd_eq_skip⟩
      case h_3 name resume invocation =>
          obtain ⟨_, past, _, rfl⟩ := signAt_invocation invocation
          obtain ⟨count, behind⟩ := ih inBody (place.skip past)
          exact ⟨past + count, by rw [behind, Place.skip_skip]⟩
      case h_4 name resume invocation =>
          obtain ⟨_, past, _, rfl⟩ := signAt_invocation invocation
          obtain ⟨inner, closed⟩ := ih true (place.skip past)
          obtain ⟨count, behind⟩ := ih inBody (place.skip (past + inner))
          rw [Place.skip_skip] at closed
          unfold readBlock
          dsimp only
          split
          · exact ⟨_, closed⟩
          · exact ⟨past + inner + count, by rw [closed, behind, Place.skip_skip]⟩
      case h_5 =>
          split
          · exact ⟨_, rfl⟩
          · exact text
      case h_6 =>
          split
          · exact ⟨_, rfl⟩
          · exact text
      case h_7 => exact text

/-- Beyond the number of characters, the allowance does not matter. -/
theorem readFrom_enough (layout : Layout) {first second : Nat} (inBody : Bool) (place : Place)
    (enough : place.rest.length < first) (enough' : place.rest.length < second) :
    readFrom layout first inBody place = readFrom layout second inBody place := by
  induction first generalizing second inBody place with
  | zero => omega
  | succ first ih =>
      obtain ⟨second, rfl⟩ := Nat.exists_eq_succ_of_ne_zero (Nat.ne_zero_of_lt enough')
      have ahead (inBody : Bool) {later : Place} (before : place.Before later) :
          readFrom layout first inBody later = readFrom layout second inBody later :=
        ih inBody later (Nat.lt_of_lt_of_le before.shorter (Nat.le_of_lt_succ enough))
          (Nat.lt_of_lt_of_le before.shorter (Nat.le_of_lt_succ enough'))
      have text (more : 0 < place.rest.length) :
          readText layout first inBody place = readText layout second inBody place := by
        rw [readText, readText, ahead inBody (.next more)]
      rw [readFrom_succ, readFrom_succ]
      split
      case h_1 | h_2 => rfl
      case h_3 name resume invocation =>
          rw [ahead inBody (signAt_invocation invocation)]
      case h_4 name resume invocation =>
          have before := signAt_invocation invocation
          obtain ⟨inner, closed⟩ := readFrom_behind layout second true resume
          unfold readBlock
          dsimp only
          rw [ahead true before, closed, ahead inBody (before.onward inner)]
      case h_5 sign =>
          rw [text (rest_pos_of_signAt sign (by simp))]
      case h_6 sign =>
          rw [text (rest_pos_of_signAt sign (by simp))]
      case h_7 sign =>
          rw [text (rest_pos_of_signAt sign (by simp))]

theorem readFrom_eq_read (layout : Layout) {fuel : Nat} (inBody : Bool) (place : Place)
    (enough : place.rest.length < fuel) :
    readFrom layout fuel inBody place = read layout inBody place :=
  readFrom_enough layout inBody place enough (Nat.lt_succ_self _)

/-- What lies ahead of an expansion `depth` levels deep, and the place behind it. -/
def ahead (layout : Layout) (depth : Nat) (place : Place) : Section × Place :=
  read layout (decide (1 < depth)) place

theorem ahead_behind (layout : Layout) (depth : Nat) (place : Place) :
    ∃ count, (ahead layout depth place).2 = place.skip count :=
  readFrom_behind layout _ _ place

theorem before_ahead {place later : Place} (before : place.Before later) (layout : Layout)
    (depth : Nat) : place.Before (ahead layout depth later).2 := by
  obtain ⟨inner, behind⟩ := ahead_behind layout depth later
  rw [behind]
  exact before.onward inner

/-- What stands at a place decides what lies ahead, as it decides what an expansion does there. -/
theorem ahead_step (layout : Layout) {depth : Nat} (positive : 0 < depth) (place : Place) :
    ahead layout depth place =
      match (signAt place).acting layout depth with
      | .endOfText => (endsAt .endOfText, place)
      | .unterminated => (endsAt (.unterminated place.offset place.rest), place.toEnd)
      | .invocation name false resume =>
          (call name place.offset (ahead layout depth resume).1, (ahead layout depth resume).2)
      | .invocation name true resume =>
          let body := ahead layout (depth + 1) resume
          if body.1.isTruncated then
            (block name place.offset body.1 (endsAt .cutShort), body.2)
          else
            (block name place.offset body.1 (ahead layout depth body.2).1,
              (ahead layout depth body.2).2)
      | .closing => (endsAt .closing, place.skip 1)
      | .separator => (endsAt .separator, place.skip 2)
      | .plain =>
          ((ahead layout depth (place.skip 1)).1.pushAll (place.rest.take 1),
            (ahead layout depth (place.skip 1)).2) := by
  have onward (inBody : Bool) {later : Place} (before : place.Before later) :
      readFrom layout place.rest.length inBody later = read layout inBody later :=
    readFrom_eq_read layout inBody later before.shorter
  have text (more : 0 < place.rest.length) :
      readText layout place.rest.length (decide (1 < depth)) place =
        ((ahead layout depth (place.skip 1)).1.pushAll (place.rest.take 1),
          (ahead layout depth (place.skip 1)).2) := by
    rw [readText, onward _ (.next more), ahead]
  rw [ahead, read, readFrom_succ]
  cases sign : signAt place with
  | endOfText => rfl
  | unterminated => rfl
  | plain => exact text (rest_pos_of_signAt sign (by simp))
  | closing =>
      have literal := text (rest_pos_of_signAt sign (by simp))
      by_cases deep : 1 < depth <;> simp [Sign.acting, deep] at literal ⊢
      exact literal
  | separator =>
      have literal := text (rest_pos_of_signAt sign (by simp))
      by_cases divided : depth = 1 ∧ layout = .headBodyTail
      · simp [Sign.acting, divided]
      · have inText : ¬(layout = .headBodyTail ∧ decide (1 < depth) = false) := by
          rintro ⟨split, shallow⟩
          have := of_decide_eq_false shallow
          exact divided ⟨by omega, split⟩
        simp only [Sign.acting, if_neg divided, if_neg inText]
        exact literal
  | invocation name hasBody resume =>
      have before := signAt_invocation sign
      cases hasBody with
      | false =>
          change (call _ _ _, _) = (call _ _ _, _)
          rw [onward _ before, ahead]
      | true =>
          have behind := before_ahead before layout (depth + 1)
          have inBody : decide (1 < depth + 1) = true := decide_eq_true (by omega)
          rw [ahead, inBody] at behind
          change readBlock _ _ _ _ _ _ = _
          unfold readBlock
          simp only [Sign.acting, ahead, inBody, onward true before, onward _ behind]

/-- Text without special characters goes in front of what lies behind it. -/
theorem ahead_nextSpecial (layout : Layout) {depth : Nat} (positive : 0 < depth) (place : Place) :
    ahead layout depth place =
      ((ahead layout depth (nextSpecial place)).1.pushAll (place.run fun c => !isSpecial c),
        (ahead layout depth (nextSpecial place)).2) := by
  induction run : place.run (fun c => !isSpecial c) generalizing place with
  | nil =>
      have here : nextSpecial place = place := by
        rw [nextSpecial, Place.afterRun_eq_skip, run, List.length_nil, Place.skip_zero]
      rw [here, pushAll_nil]
  | cons c run' ih =>
      obtain ⟨rest, seen, common, run'_eq⟩ := cons_of_run run
      have onward : nextSpecial (place.skip 1) = nextSpecial place := by
        rw [nextSpecial, Place.afterRun_eq_skip, run'_eq, Place.skip_skip, nextSpecial,
          Place.afterRun_eq_skip, run, List.length_cons, Nat.add_comm]
      rw [ahead_step layout positive, signAt_common seen common, ih (place.skip 1) run'_eq, onward,
        seen]
      rfl

end Section
end SiteIndex.Template
