import SiteIndex.Proofs.Template.Reading

/-!
The search for separators and the reading of sections look at the same signs. The search counts the
bodies that are open where the reader goes into one and comes out of it, so behind a body the count
is what it was before; and a section read to its end stands behind the first separator found.
-/

namespace SiteIndex.Template

open SiteIndex.Text

/-- The separators from `place` on, with as much allowance as there can be need of. -/
def separatorsAt (opened : Nat) (place : Place) : List Nat :=
  separatorsFrom (place.rest.length + 1) opened place

/-- Beyond the number of characters, the allowance does not matter. -/
theorem separatorsFrom_enough {first second : Nat} (opened : Nat) (place : Place)
    (enough : place.rest.length < first) (enough' : place.rest.length < second) :
    separatorsFrom first opened place = separatorsFrom second opened place := by
  induction first generalizing second opened place with
  | zero => omega
  | succ first ih =>
      obtain ⟨second, rfl⟩ := Nat.exists_eq_succ_of_ne_zero (Nat.ne_zero_of_lt enough')
      have onward (opened : Nat) {later : Place} (before : (nextSpecial place).Before later) :
          separatorsFrom first opened later = separatorsFrom second opened later := by
        have short := (before_of_nextSpecial before).shorter
        apply ih <;> omega
      rw [separatorsFrom, separatorsFrom]
      cases sign : signAt (nextSpecial place) with
      | endOfText | unterminated => rfl
      | plain | closing => exact onward _ (.next (rest_pos_of_signAt sign (by simp)))
      | separator =>
          have next := Place.Before.next (rest_pos_of_signAt sign (by simp))
          dsimp only
          rw [onward _ next, ← Place.skip_skip _ 1 1, onward _ (next.onward 1)]
      | invocation name hasBody resume => exact onward _ (signAt_invocation sign)

theorem separatorsFrom_eq_at {fuel : Nat} (opened : Nat) (place : Place)
    (enough : place.rest.length < fuel) :
    separatorsFrom fuel opened place = separatorsAt opened place :=
  separatorsFrom_enough opened place enough (Nat.lt_succ_self _)

/-- A place at which the text ends or a special character stands is itself the next such place. -/
theorem nextSpecial_eq_self {place : Place}
    (here : ∀ c rest, place.rest = c :: rest → isSpecial c = true) : nextSpecial place = place := by
  have run : place.run (fun c => !isSpecial c) = [] := by
    unfold Place.run
    cases seen : place.rest with
    | nil => rfl
    | cons c rest => simp [here c rest seen]
  rw [nextSpecial, Place.afterRun_eq_skip, run, List.length_nil, Place.skip_zero]

theorem nextSpecial_skip {place : Place} {c : Char} {rest : List Char}
    (seen : place.rest = c :: rest) (common : isSpecial c = false) :
    nextSpecial (place.skip 1) = nextSpecial place := by
  have run : place.run (fun c => !isSpecial c) =
      c :: (place.skip 1).run (fun c => !isSpecial c) := by
    unfold Place.run
    rw [Place.rest_skip, seen, List.takeWhile_cons_of_pos (by simp [common])]
    rfl
  rw [nextSpecial, nextSpecial, Place.afterRun_eq_skip, Place.afterRun_eq_skip, run,
    Place.skip_skip, List.length_cons, Nat.add_comm]

/-- What stands at a place decides the step of the search. -/
theorem separatorsAt_step (opened : Nat) (place : Place) :
    separatorsAt opened place =
      match signAt place with
      | .endOfText | .unterminated => []
      | .plain => separatorsAt opened (place.skip 1)
      | .closing => separatorsAt (opened - 1) (place.skip 1)
      | .separator =>
          if opened = 0 then place.offset :: separatorsAt opened (place.skip 2)
          else separatorsAt opened (place.skip 1)
      | .invocation _ hasBody resume =>
          separatorsAt (if hasBody then opened + 1 else opened) resume := by
  by_cases passed : ∃ c rest, place.rest = c :: rest ∧ isSpecial c = false
  · obtain ⟨c, rest, seen, common⟩ := passed
    have behind : (place.skip 1).rest.length < place.rest.length + 1 := by
      rw [Place.rest_skip, List.length_drop]
      omega
    rw [signAt_common seen common]
    dsimp only
    rw [← separatorsFrom_eq_at opened (place.skip 1) behind, separatorsAt, separatorsFrom,
      separatorsFrom, nextSpecial_skip seen common]
  · have here : nextSpecial place = place := by
      refine nextSpecial_eq_self fun c rest seen => ?_
      rw [← Bool.not_eq_false]
      exact fun common => passed ⟨c, rest, seen, common⟩
    have onward (opened : Nat) {later : Place} (before : place.Before later) :
        separatorsFrom place.rest.length opened later = separatorsAt opened later :=
      separatorsFrom_eq_at opened later before.shorter
    rw [separatorsAt, separatorsFrom, here]
    cases sign : signAt place with
    | endOfText | unterminated => rfl
    | plain | closing => exact onward _ (.next (rest_pos_of_signAt sign (by simp)))
    | separator =>
        have next := Place.Before.next (rest_pos_of_signAt sign (by simp))
        dsimp only
        rw [onward _ next, ← Place.skip_skip place 1 1, onward _ (next.onward 1)]
    | invocation name hasBody resume => exact onward _ (signAt_invocation sign)

namespace Section

/-- Behind a body as many bodies are open as before it; in one that is cut short there is no separator
for the search to find. -/
theorem separatorsAt_body (layout : Layout) (depth : Nat) (place : Place) (opened : Nat) :
    separatorsAt (opened + 1) place =
      if (ahead layout (depth + 2) place).1.isTruncated then []
      else separatorsAt opened (ahead layout (depth + 2) place).2 := by
  -- the induction is on the text ahead: a body is read at the place behind its opening, and what
  -- follows it at the place behind the body
  induction place using Place.forward generalizing opened depth with
  | reached place onward =>
      rw [ahead_step layout (Nat.succ_pos _), separatorsAt_step]
      cases sign : signAt place with
      | endOfText =>
          change [] = separatorsAt opened place
          rw [separatorsAt_step, sign]
      | unterminated | closing => rfl
      | plain =>
          simp only [Sign.acting, isTruncated_pushAll]
          exact onward _ (.next (rest_pos_of_signAt sign (by simp))) depth opened
      | separator =>
          have literal : ¬(depth + 2 = 1 ∧ layout = .headBodyTail) := fun both => by omega
          simp only [Sign.acting, if_neg literal, if_neg (Nat.succ_ne_zero opened),
            isTruncated_pushAll]
          exact onward _ (.next (rest_pos_of_signAt sign (by simp))) depth opened
      | invocation name hasBody resume =>
          have before := signAt_invocation sign
          cases hasBody with
          | false => exact onward resume before depth opened
          | true =>
              have body := onward resume before (depth + 1) (opened + 1)
              simp only [Sign.acting, if_true, body]
              split
              · rfl
              · exact onward _ (before_ahead before layout _) depth opened

/-- Reading goes on to the end of the text unless a brace or a separator stops it. -/
theorem ahead_atEnd (layout : Layout) {depth : Nat} (positive : 0 < depth) (place : Place) :
    (ahead layout depth place).1.lastStop = .closing ∨
      (ahead layout depth place).1.lastStop = .separator ∨ (ahead layout depth place).2.rest = [] := by
  induction place using Place.forward generalizing depth with
  | reached place onward =>
      rw [ahead_step layout positive]
      cases acting : (signAt place).acting layout depth with
      | endOfText => exact .inr (.inr (rest_of_endOfText (Sign.eq_of_acting acting (by simp))))
      | unterminated =>
          refine .inr (.inr ?_)
          dsimp only
          rw [Place.toEnd_eq_skip, Place.rest_skip, List.drop_length]
      | closing => exact .inl rfl
      | separator => exact .inr (.inl rfl)
      | plain =>
          simp only [lastStop_pushAll]
          exact onward _ (.next (rest_pos_of_acting acting (by simp))) positive
      | invocation name hasBody resume =>
          have before := before_of_acting acting
          cases hasBody with
          | false => exact onward resume before positive
          | true =>
              have body := onward resume before (Nat.succ_pos depth)
              dsimp only
              split
              · next truncated =>
                  -- a body that is cut short has stopped at neither a brace nor a separator
                  unfold isTruncated at truncated
                  rcases body with closed | divided | ended
                  · simp [closed] at truncated
                  · simp [divided] at truncated
                  · exact .inr (.inr ended)
              · exact onward _ (before_ahead before layout _) positive

/-- The first separator, and what stands before it, between a place and the one behind it. -/
def Divides (place behind : Place) : Prop :=
  ∃ text, place.rest = text ++ '~' :: '\n' :: behind.rest ∧
    behind = place.skip (text.length + 2) ∧
    separatorsAt 0 place = (place.skip text.length).offset :: separatorsAt 0 behind

theorem Divides.of_before {place later behind : Place} (divides : Divides later behind)
    (before : place.Before later) (same : separatorsAt 0 place = separatorsAt 0 later) :
    Divides place behind := by
  obtain ⟨-, count, -, rfl⟩ := before
  obtain ⟨text, rest, here, found⟩ := divides
  rw [Place.rest_skip] at rest
  have within : (place.rest.take count).length = count := by
    have some := congrArg List.length rest
    rw [List.length_drop, List.length_append, List.length_cons] at some
    rw [List.length_take]
    omega
  refine ⟨place.rest.take count ++ text, ?_, ?_, ?_⟩
  · rw [List.append_assoc, ← rest, List.take_append_drop]
  · rw [here, Place.skip_skip, List.length_append, within, Nat.add_assoc]
  · rw [same, found, Place.skip_skip, List.length_append, within]

theorem Divides.offset {place behind : Place} (divides : Divides place behind) :
    separatorsAt 0 place = (behind.offset - 2) :: separatorsAt 0 behind ∧ 2 ≤ behind.offset := by
  obtain ⟨text, rest, here, found⟩ := divides
  have two : behind.offset = (place.skip text.length).offset + 2 := by
    have next : (place.skip text.length).rest = '~' :: '\n' :: behind.rest := by
      rw [Place.rest_skip, rest, List.drop_left]
    rw [here, ← Place.skip_skip]
    change (place.skip text.length).offset +
      byteSize ((place.skip text.length).rest.take 2) = _
    rw [next]
    rfl
  rw [found, two, Nat.add_sub_cancel]
  exact ⟨rfl, Nat.le_add_left 2 _⟩

/-- A section read to a separator stands behind the first separator that there is; one read to the end
of the text has no separator before it. -/
theorem separatorsAt_section (place : Place) :
    ((ahead .headBodyTail 1 place).1.lastStop = .separator ∧
        Divides place (ahead .headBodyTail 1 place).2) ∨
      ((ahead .headBodyTail 1 place).1.lastStop ≠ .separator ∧
        (ahead .headBodyTail 1 place).1.lastStop ≠ .closing ∧ separatorsAt 0 place = []) := by
  induction place using Place.forward with
  | reached place ih =>
      have onward {later : Place} (before : place.Before later)
          (same : separatorsAt 0 place = separatorsAt 0 later) :
          ((ahead .headBodyTail 1 later).1.lastStop = .separator ∧
              Divides place (ahead .headBodyTail 1 later).2) ∨
            ((ahead .headBodyTail 1 later).1.lastStop ≠ .separator ∧
              (ahead .headBodyTail 1 later).1.lastStop ≠ .closing ∧ separatorsAt 0 place = []) := by
        rcases ih later before with ⟨stop, divides⟩ | ⟨stop, unclosed, none⟩
        · exact .inl ⟨stop, divides.of_before before same⟩
        · exact .inr ⟨stop, unclosed, same.trans none⟩
      have step := separatorsAt_step 0 place
      rw [ahead_step .headBodyTail Nat.one_pos]
      cases sign : signAt place with
      | endOfText | unterminated =>
          exact .inr ⟨by simp [Sign.acting, lastStop], by simp [Sign.acting, lastStop],
            by rw [step, sign]⟩
      | plain =>
          simp only [Sign.acting, lastStop_pushAll]
          exact onward (.next (rest_pos_of_signAt sign (by simp))) (by rw [step, sign])
      | closing =>
          -- outside every body a brace is text, and no body is there to be closed
          simp only [Sign.acting, Nat.lt_irrefl, if_false, lastStop_pushAll]
          exact onward (.next (rest_pos_of_signAt sign (by simp))) (by rw [step, sign])
      | separator =>
          obtain ⟨rest, seen⟩ := rest_of_separator sign
          refine .inl ⟨rfl, [], ?_, rfl, ?_⟩
          · simp only [Sign.acting, and_self, if_true, Place.rest_skip, seen]
            rfl
          · rw [step, sign, List.length_nil, Place.skip_zero]
            rfl
      | invocation name hasBody resume =>
          have before := signAt_invocation sign
          cases hasBody with
          | false => exact onward before (by rw [step, sign]; rfl)
          | true =>
              rw [sign] at step
              simp only [if_true, separatorsAt_body .headBodyTail 0 resume 0] at step
              simp only [Sign.acting]
              split
              · next truncated =>
                  rw [if_pos truncated] at step
                  exact .inr ⟨by simp [lastStop], by simp [lastStop], step⟩
              · next whole =>
                  rw [if_neg whole] at step
                  exact onward (before_ahead before .headBodyTail 2) step

theorem invoked_of_signAt {place : Place}
    (sign : signAt place = .unterminated ∨
      ∃ name hasBody resume, signAt place = .invocation name hasBody resume) :
    ['@', '('] <:+: place.rest := by
  unfold signAt at sign
  split at sign
  case h_2 opened seen =>
      rw [seen]
      exact ⟨[], opened, rfl⟩
  case h_4 => split at sign <;> simp at sign
  all_goals simp at sign

/-- Where nothing is invoked, a section is its text and no more. -/
theorem ahead_clear (place : Place) (clear : ¬['@', '('] <:+: place.rest) :
    ∃ text,
      ((ahead .headBodyTail 1 place).1 = pushAll text (endsAt .separator) ∧
        place.rest = text ++ '~' :: '\n' :: (ahead .headBodyTail 1 place).2.rest) ∨
      ((ahead .headBodyTail 1 place).1 = pushAll text (endsAt .endOfText) ∧ place.rest = text) := by
  induction place using Place.forward with
  | reached place ih =>
      have text (more : 0 < place.rest.length) :
          ∃ text,
            (pushAll (place.rest.take 1) (ahead .headBodyTail 1 (place.skip 1)).1 =
                pushAll text (endsAt .separator) ∧
              place.rest =
                text ++ '~' :: '\n' :: (ahead .headBodyTail 1 (place.skip 1)).2.rest) ∨
            (pushAll (place.rest.take 1) (ahead .headBodyTail 1 (place.skip 1)).1 =
                pushAll text (endsAt .endOfText) ∧ place.rest = text) := by
        have parts := (List.take_append_drop 1 place.rest).symm
        rw [← Place.rest_skip] at parts
        have behind : (place.skip 1).rest <:+: place.rest :=
          Place.rest_skip place 1 ▸ (List.drop_suffix 1 _).isInfix
        obtain ⟨text, ⟨part, rest⟩ | ⟨part, rest⟩⟩ :=
          ih _ (.next more) fun invoked => clear (invoked.trans behind)
        · refine ⟨place.rest.take 1 ++ text, .inl ⟨by rw [part, pushAll_append], ?_⟩⟩
          rw [List.append_assoc, ← rest, ← parts]
        · refine ⟨place.rest.take 1 ++ text, .inr ⟨by rw [part, pushAll_append], ?_⟩⟩
          rw [← rest, ← parts]
      rw [ahead_step .headBodyTail Nat.one_pos]
      cases sign : signAt place with
      | endOfText => exact ⟨[], .inr ⟨rfl, rest_of_endOfText sign⟩⟩
      | plain => exact text (rest_pos_of_signAt sign (by simp))
      | closing =>
          simp only [Sign.acting, Nat.lt_irrefl, if_false]
          exact text (rest_pos_of_signAt sign (by simp))
      | separator =>
          obtain ⟨rest, seen⟩ := rest_of_separator sign
          refine ⟨[], .inl ⟨rfl, ?_⟩⟩
          simp only [Sign.acting, and_self, if_true, Place.rest_skip, seen]
          rfl
      | unterminated => exact absurd (invoked_of_signAt (.inl sign)) clear
      | invocation name hasBody resume =>
          exact absurd (invoked_of_signAt (.inr ⟨name, hasBody, resume, sign⟩)) clear

/-- The text in front of a separator, where nothing is invoked. -/
theorem ahead_clear_separator {place : Place} (clear : ¬['@', '('] <:+: place.rest)
    (stop : (ahead .headBodyTail 1 place).1.lastStop = .separator) {text : List Char}
    (rest : place.rest = text ++ '~' :: '\n' :: (ahead .headBodyTail 1 place).2.rest) :
    (ahead .headBodyTail 1 place).1 = pushAll text (endsAt .separator) := by
  obtain ⟨text', ⟨part, rest'⟩ | ⟨part, _⟩⟩ := ahead_clear place clear
  · rw [part, List.append_cancel_right (rest'.symm.trans rest)]
  · rw [part, lastStop_pushAll] at stop
    cases stop

/-- The text behind the last separator, where nothing is invoked. -/
theorem ahead_clear_last {place : Place} (clear : ¬['@', '('] <:+: place.rest)
    (stop : (ahead .headBodyTail 1 place).1.lastStop ≠ .separator) :
    (ahead .headBodyTail 1 place).1 = pushAll place.rest (endsAt .endOfText) := by
  obtain ⟨text, ⟨part, _⟩ | ⟨part, rest⟩⟩ := ahead_clear place clear
  · rw [part, lastStop_pushAll] at stop
    exact absurd rfl stop
  · rw [part, rest]

end Section
end SiteIndex.Template
