import SiteIndex.Proofs.Template.SeparatorScan
import SiteIndex.Template.Mistakes

/-!
The search for invocations runs straight through the text, and the reading of sections meets the same
ones in the same order, however they are nested: a section names what the search names up to where the
section ends, and it is cut short at the `@(` without `)` at which the search gives up.
-/

namespace SiteIndex.Template

open SiteIndex.Text

/-- What the search names in a text, with as much allowance as there can be need of. -/
def invokedIn (text : List Char) : List String × Bool :=
  invokedNames (text.length + 1) text

theorem invokedNames_opened (fuel : Nat) (opened : List Char) :
    invokedNames (fuel + 1) ('@' :: '(' :: opened) =
      match opened.dropWhile (· != ')') with
      | [] => ([], true)
      | _ :: rest =>
          (String.ofList (opened.takeWhile (· != ')')) :: (invokedNames fuel rest).1,
            (invokedNames fuel rest).2) := by
  cases closed : opened.dropWhile (· != ')') <;> simp only [invokedNames, closed]

theorem invokedNames_passed {c : Char} {rest : List Char}
    (plain : ∀ opened, c :: rest ≠ '@' :: '(' :: opened) (fuel : Nat) :
    invokedNames (fuel + 1) (c :: rest) = invokedNames fuel rest := by
  rw [invokedNames]
  exact fun opened first second => plain opened (by rw [first, second])

/-- Beyond the number of characters, the allowance does not matter. -/
theorem invokedNames_enough {first second : Nat} (text : List Char) (enough : text.length < first)
    (enough' : text.length < second) : invokedNames first text = invokedNames second text := by
  induction first generalizing second text with
  | zero => omega
  | succ first ih =>
      obtain ⟨second, rfl⟩ := Nat.exists_eq_succ_of_ne_zero (Nat.ne_zero_of_lt enough')
      cases text with
      | nil => rfl
      | cons c rest =>
          by_cases opens : ∃ opened, c :: rest = '@' :: '(' :: opened
          · obtain ⟨opened, opens⟩ := opens
            have shorter : (opened.dropWhile (· != ')')).length ≤ opened.length :=
              (List.dropWhile_suffix _).length_le
            rw [opens] at enough enough' ⊢
            rw [invokedNames_opened, invokedNames_opened]
            split
            · rfl
            · next closed =>
              rw [closed] at shorter
              simp only [List.length_cons] at enough enough' shorter
              rw [@ih second _ (by omega) (by omega)]
          · rw [not_exists] at opens
            rw [invokedNames_passed opens, invokedNames_passed opens]
            exact ih rest (Nat.lt_of_succ_lt_succ enough) (Nat.lt_of_succ_lt_succ enough')

theorem invokedNames_eq_in {fuel : Nat} (text : List Char) (enough : text.length < fuel) :
    invokedNames fuel text = invokedIn text :=
  invokedNames_enough text enough (Nat.lt_succ_self _)

theorem invokedIn_passed {c : Char} {rest : List Char}
    (plain : ∀ opened, c :: rest ≠ '@' :: '(' :: opened) : invokedIn (c :: rest) = invokedIn rest := by
  rw [invokedIn, List.length_cons, invokedNames_passed plain]
  rfl

theorem invokedIn_common {c : Char} (rest : List Char) (common : c ≠ '@') :
    invokedIn (c :: rest) = invokedIn rest :=
  invokedIn_passed fun _ opens => common (List.head_eq_of_cons_eq opens)

theorem invokedIn_opened (opened : List Char) :
    invokedIn ('@' :: '(' :: opened) =
      match opened.drop (opened.takeWhile (· != ')')).length with
      | [] => ([], true)
      | _ :: rest =>
          (String.ofList (opened.takeWhile (· != ')')) :: (invokedIn rest).1, (invokedIn rest).2) := by
  have behind : opened.drop (opened.takeWhile (· != ')')).length = opened.dropWhile (· != ')') := by
    have left : (opened.takeWhile (· != ')') ++ opened.dropWhile (· != ')')).drop
        (opened.takeWhile (· != ')')).length = opened.dropWhile (· != ')') :=
      List.drop_left
    rwa [List.takeWhile_append_dropWhile] at left
  have shorter : (opened.dropWhile (· != ')')).length ≤ opened.length :=
    (List.dropWhile_suffix _).length_le
  rw [invokedIn, List.length_cons, List.length_cons, invokedNames_opened, behind]
  split
  · rfl
  · next closed =>
    rw [closed, List.length_cons] at shorter
    rw [invokedNames_eq_in _ (by omega)]

/-- What stands at a place decides the step of the search, which goes over the brace of a body and over
the other signs as over text. -/
theorem invokedIn_step (place : Place) :
    invokedIn place.rest =
      match signAt place with
      | .endOfText => ([], false)
      | .unterminated => ([], true)
      | .invocation name _ resume =>
          (name :: (invokedIn resume.rest).1, (invokedIn resume.rest).2)
      | .plain | .closing | .separator => invokedIn (place.skip 1).rest := by
  cases seen : place.rest with
  | nil =>
      rw [signAt, seen]
      rfl
  | cons c rest =>
      by_cases opens : ∃ opened, c :: rest = '@' :: '(' :: opened
      · obtain ⟨opened, opens⟩ := opens
        rw [opens] at seen ⊢
        have sign : signAt place = invocationAt place := by
          simp only [signAt, seen]
        have resumed (count : Nat) : (place.skip (count + 2)).rest = opened.drop count := by
          rw [Place.rest_skip, seen]
          rfl
        have invocation := invocationAt_opened seen
        rw [sign, invokedIn_opened]
        split at invocation
        · next closed => rw [invocation, closed]
        · next inner closed =>
          have onward := congrArg (List.drop 2) closed
          rw [List.drop_drop] at onward
          rw [invocation, closed]
          simp only [invokedIn_common inner (by decide : '\x7b' ≠ '@'), resumed (_ + 2), onward,
            List.drop_succ_cons, List.drop_zero]
        · next rest' _ closed =>
          have onward := congrArg (List.drop 1) closed
          rw [List.drop_drop] at onward
          rw [invocation, closed]
          simp only [resumed (_ + 1), onward, List.drop_succ_cons, List.drop_zero]
      · rw [not_exists] at opens
        have behind : (place.skip 1).rest = rest := by
          rw [Place.rest_skip, seen]
          rfl
        rw [invokedIn_passed opens, ← behind]
        cases sign : signAt place with
        | plain | closing | separator => rfl
        | endOfText => cases seen.symm.trans (rest_of_endOfText sign)
        | unterminated | invocation =>
            unfold signAt at sign
            rw [seen] at sign
            split at sign
            · cases sign
            · next opened same => exact absurd same (opens opened)
            · cases sign
            · split at sign <;> cases sign
            · cases sign

/-- A sign that has no effect where it stands is text to the search as well. -/
theorem invokedIn_acting (layout : Layout) (depth : Nat) (place : Place) :
    invokedIn place.rest =
      match (signAt place).acting layout depth with
      | .endOfText => ([], false)
      | .unterminated => ([], true)
      | .invocation name _ resume =>
          (name :: (invokedIn resume.rest).1, (invokedIn resume.rest).2)
      | .plain | .closing | .separator => invokedIn (place.skip 1).rest := by
  rw [invokedIn_step]
  cases signAt place with
  | closing => by_cases deep : 1 < depth <;> simp [Sign.acting, deep]
  | separator =>
      by_cases divided : depth = 1 ∧ layout = .headBodyTail <;> simp [Sign.acting, divided]
  | _ => rfl

namespace Section

@[simp] theorem names_pushText (c : Char) (part : Section) : (pushText c part).names = part.names := by
  cases part <;> rfl

@[simp] theorem names_pushAll (chars : List Char) (part : Section) :
    (pushAll chars part).names = part.names := by
  induction chars with
  | nil => rfl
  | cons c rest ih => rw [pushAll, List.foldr_cons, names_pushText, ← pushAll, ih]

/-- Nothing is left of the text behind what has been cut short. -/
theorem rest_of_isTruncated {layout : Layout} {depth : Nat} (positive : 0 < depth) {place : Place}
    (truncated : (ahead layout depth place).1.isTruncated = true) :
    (ahead layout depth place).2.rest = [] := by
  unfold isTruncated at truncated
  rcases ahead_atEnd layout positive place with closed | divided | ended
  · simp [closed] at truncated
  · simp [divided] at truncated
  · exact ended

/-- Up to the end of a section the search names what the section does, and goes on behind it. -/
theorem invokedIn_ahead (layout : Layout) {depth : Nat} (positive : 0 < depth) (place : Place) :
    (invokedIn place.rest).1 =
        (ahead layout depth place).1.names ++ (invokedIn (ahead layout depth place).2.rest).1 ∧
      (invokedIn place.rest).2 =
        ((ahead layout depth place).1.isTruncated ||
          (invokedIn (ahead layout depth place).2.rest).2) := by
  induction place using Place.forward generalizing depth with
  | reached place onward =>
      rw [ahead_step layout positive, invokedIn_acting layout depth]
      cases acting : (signAt place).acting layout depth with
      | endOfText => simp [names, isTruncated, lastStop,
          rest_of_endOfText (Sign.eq_of_acting acting (by simp)), invokedIn, invokedNames]
      | unterminated =>
          simp [names, isTruncated, lastStop, Place.toEnd_eq_skip, invokedIn, invokedNames]
      | closing => simp [names, isTruncated, lastStop]
      | separator =>
          obtain ⟨rest, seen⟩ := rest_of_separator (Sign.eq_of_acting acting (by simp))
          simp [names, isTruncated, lastStop, seen, invokedIn_common]
      | plain =>
          simp only [names_pushAll, isTruncated_pushAll]
          exact onward _ (.next (rest_pos_of_acting acting (by simp))) positive
      | invocation name hasBody resume =>
          have before := before_of_acting acting
          cases hasBody with
          | false =>
              obtain ⟨named, cut⟩ := onward resume before positive
              exact ⟨congrArg (List.cons name) named, cut⟩
          | true =>
              obtain ⟨named, cut⟩ := onward resume before (Nat.succ_pos depth)
              dsimp only
              rw [named, cut]
              split
              · next truncated =>
                  rw [rest_of_isTruncated (Nat.succ_pos depth) truncated, truncated]
                  exact ⟨by simp [names, invokedIn, invokedNames], rfl⟩
              · next whole =>
                  obtain ⟨named', cut'⟩ :=
                    onward _ (before_ahead before layout (depth + 1)) positive
                  rw [named', cut', Bool.eq_false_iff.mpr whole]
                  exact ⟨by simp [names], rfl⟩

end Section
end SiteIndex.Template
