import SiteIndex.Proofs.Template.Reading

/-!
A section read as if it lay in a body. The two readings are the same up to the first brace that closes
no inner body, which ends the one and is text to the other, or up to the first separator, for which
it is the other way round.
-/

namespace SiteIndex.Template

open SiteIndex.Text

namespace Section

/-- The second part is the first one, which a brace has ended, and goes on with that brace as text. -/
inductive GoesOn : Section → Section → Prop
  | here (more : List Char) (next : Section) :
      GoesOn (endsAt .closing) (text ('\x7d' :: more) next)
  | inText (content more : List Char) (next : Section) :
      GoesOn (text content (endsAt .closing)) (text (content ++ '\x7d' :: more) next)
  | text (content : List Char) {part longer : Section} (onward : GoesOn part longer) :
      GoesOn (text content part) (text content longer)
  | call (name : String) (offset : Nat) {part longer : Section} (onward : GoesOn part longer) :
      GoesOn (call name offset part) (call name offset longer)
  | block (name : String) (offset : Nat) (body : Section) {part longer : Section}
      (onward : GoesOn part longer) :
      GoesOn (block name offset body part) (block name offset body longer)

theorem GoesOn.lastStop {part longer : Section} (onward : GoesOn part longer) :
    part.lastStop = .closing := by
  induction onward with
  | here | inText => rfl
  | text _ _ ih | call _ _ _ ih | block _ _ _ _ ih => exact ih

theorem GoesOn.pushText {part longer : Section} (onward : GoesOn part longer) (c : Char) :
    GoesOn (part.pushText c) (longer.pushText c) := by
  cases onward with
  | here more next => exact .inText [c] more next
  | inText content more next => exact .inText (c :: content) more next
  | text content onward => exact .text (c :: content) onward
  | call name offset onward => exact .text [c] (.call name offset onward)
  | block name offset body onward => exact .text [c] (.block name offset body onward)

theorem GoesOn.pushAll {part longer : Section} (onward : GoesOn part longer) (chars : List Char) :
    GoesOn (pushAll chars part) (pushAll chars longer) := by
  induction chars with
  | nil => exact onward
  | cons c rest ih => exact ih.pushText c

/-- A section in front of which stands a brace that is text. -/
theorem goesOn_closing (longer : Section) : GoesOn (endsAt .closing) (pushText '\x7d' longer) := by
  cases longer <;> exact .here _ _

/-- All bodies are read alike, however deep they lie. -/
theorem ahead_inside (layout : Layout) {depth : Nat} (inside : 1 < depth) (place : Place) :
    ahead layout depth place = ahead layout 2 place := by
  unfold ahead
  rw [decide_eq_true inside, decide_eq_true Nat.one_lt_two]

theorem lastStop_inside (layout : Layout) {depth : Nat} (inside : 1 < depth) (place : Place) :
    (ahead layout depth place).1.lastStop ≠ .separator := by
  induction place using Place.forward with
  | reached place onward =>
      rw [ahead_step layout (Nat.lt_trans Nat.one_pos inside)]
      cases acting : (signAt place).acting layout depth with
      | endOfText | unterminated | closing => nofun
      | separator => exact absurd (Sign.depth_of_acting_separator acting) (Nat.ne_of_gt inside)
      | plain =>
          simp only [lastStop_pushAll]
          exact onward _ (.next (rest_pos_of_acting acting (by simp)))
      | invocation name hasBody resume =>
          have before := before_of_acting acting
          cases hasBody with
          | false => exact onward resume before
          | true =>
              dsimp only
              split
              · nofun
              · exact onward _ (before_ahead before layout (depth + 1))

/-- What is read outside every body, compared with what is read in one: the same, or more because a
brace does not end it, or it is ended by a separator. -/
def Outside (inside outside : Section) : Prop :=
  outside = inside ∨ GoesOn inside outside ∨ outside.lastStop = .separator

theorem Outside.pushAll {inside outside : Section} (rest : Outside inside outside)
    (chars : List Char) : Outside (pushAll chars inside) (pushAll chars outside) := by
  rcases rest with same | longer | stop
  · exact .inl (by rw [same])
  · exact .inr (.inl (longer.pushAll chars))
  · exact .inr (.inr (by rw [lastStop_pushAll, stop]))

theorem Outside.call {inside outside : Section} (rest : Outside inside outside) (name : String)
    (offset : Nat) : Outside (call name offset inside) (call name offset outside) := by
  rcases rest with same | longer | stop
  · exact .inl (by rw [same])
  · exact .inr (.inl (.call name offset longer))
  · exact .inr (.inr stop)

theorem Outside.block {inside outside : Section} (rest : Outside inside outside) (name : String)
    (offset : Nat) (body : Section) :
    Outside (block name offset body inside) (block name offset body outside) := by
  rcases rest with same | longer | stop
  · exact .inl (by rw [same])
  · exact .inr (.inl (.block name offset body longer))
  · exact .inr (.inr stop)

theorem ahead_outside (layout : Layout) (place : Place) :
    Outside (ahead layout 2 place).1 (ahead layout 1 place).1 := by
  induction place using Place.forward with
  | reached place onward =>
      rw [ahead_step layout Nat.one_pos, ahead_step layout Nat.two_pos]
      cases sign : signAt place with
      | endOfText | unterminated => exact .inl rfl
      | plain =>
          exact (onward _ (.next (rest_pos_of_signAt sign (by simp)))).pushAll _
      | closing =>
          obtain ⟨rest, seen⟩ := rest_of_closing sign
          simp only [Sign.acting, Nat.lt_irrefl, if_false, Nat.one_lt_two, if_true, seen]
          exact .inr (.inl (goesOn_closing _))
      | separator =>
          cases layout with
          | headBodyTail => exact .inr (.inr rfl)
          | bodyOnly =>
              exact (onward _ (.next (rest_pos_of_signAt sign (by simp)))).pushAll _
      | invocation name hasBody resume =>
          have before := signAt_invocation sign
          cases hasBody with
          | false => exact (onward resume before).call name place.offset
          | true =>
              have body := ahead_inside layout (Nat.lt_succ_of_lt Nat.one_lt_two) resume
              simp only [Sign.acting, Nat.reduceAdd, body]
              split
              · exact .inl rfl
              · exact (onward _ (before_ahead before layout 2)).block name place.offset _

end Section
end SiteIndex.Template
