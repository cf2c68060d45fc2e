import SiteIndex.Proofs.Template.Handing
import SiteIndex.Proofs.Template.Sections

/-!
Where the sections of a template begin, and that an expansion which starts at one of them depends on
nothing that the template has been through before. With two separators the body begins behind the first
and the tail behind the second; otherwise the whole is the body.
-/

namespace SiteIndex.Template

open SiteIndex.Text

/-- The template with this text, about to be expanded from a position on. -/
def partAt (source : String) (position : Nat) : Template :=
  { ofSource source with position }

def bodyOffset (source : String) : Nat :=
  match separators source with
  | [first, _] => first + 2
  | _ => 0

def tailOffset (source : String) : Nat :=
  match separators source with
  | [_, second] => second + 2
  | _ => source.utf8ByteSize

/-- About to be expanded from a position on, wherever it would be rewound to. -/
def IsAt (template : Template) (source : String) (position : Nat) : Prop :=
  { template with rewindPoint := 0 } = partAt source position

section
variable {source : String} {position : Nat} {template : Template}

theorem IsAt.divided (isAt : template.IsAt source position) :
    template.layout = .headBodyTail ↔ Layout.ofSource source = .headBodyTail := by
  rw [show template.layout = .ofSource source from congrArg layout isAt]

section
variable {ε ω : Type} {host : Host ε ω} {fuel : Nat} {suppressed : Bool} {world later : ω}
  {after : Template} {ending : Ending}

theorem IsAt.outermost (isAt : template.IsAt source position) : template.depth = 0 :=
  congrArg depth isAt

/-- An outermost expansion does not ask where the template would be rewound to. -/
theorem IsAt.expand (isAt : template.IsAt source position) :
    template.expand host fuel suppressed world =
      (partAt source position).expand host fuel suppressed world := by
  rw [← isAt]
  simp only [Template.expand, progress, Progress.enter, isAt.outermost, Nat.zero_add, if_true]
  rfl

/-- Behind an expansion the template is about to be expanded from where that has come to. -/
theorem IsAt.behind (isAt : template.IsAt source position)
    (ended : template.expand host fuel suppressed world = some (.ok ending, after, later)) :
    after.takeDiagnostics.2.IsAt source (partAt source position).upcoming.2.offset := by
  rw [isAt.expand] at ended
  rw [((renderUpcoming_of_expand host ended).2 ending rfl).2]
  rfl

/-- Rewound, it is where the expansion began. -/
theorem IsAt.rewound (isAt : template.IsAt source position)
    (stands : (partAt source position).standing.offset = position)
    (ended : template.expand host fuel suppressed world = some (.ok ending, after, later)) :
    after.takeDiagnostics.2.rewind.IsAt source position := by
  rw [isAt.expand] at ended
  rw [((renderUpcoming_of_expand host ended).2 ending rfl).2]
  simp only [IsAt, rewind, takeDiagnostics, arrived, partAt, ofSource, withLayout, if_true]
  congr 1

end

theorem stands_partAt (divided : Layout.ofSource source = .headBodyTail) {count : Nat}
    (here : ((Place.start source.toList).skip count).offset = position) :
    Stands source count (partAt source position) :=
  ⟨rfl, divided, rfl, here.symm⟩

/-- The sections of a divided template begin behind its separators, each where the one before it ends. -/
theorem sections_of_divided (divided : Layout.ofSource source = .headBodyTail) :
    (partAt source 0).upcoming.2.offset = bodyOffset source ∧
      (partAt source (bodyOffset source)).standing.offset = bodyOffset source ∧
      (partAt source (bodyOffset source)).upcoming.2.offset = tailOffset source := by
  obtain ⟨head, body, tail, parts⟩ := parts_of_headBodyTail divided
  have first : ((Place.start source.toList).skip (head.length + 2)).offset = bodyOffset source := by
    have whole : source.toList = (head ++ ['~', '\n']) ++ (body ++ ['~', '\n'] ++ tail) := by
      rw [parts.text]
      simp only [List.append_assoc]
    have behind := offset_start_skip whole
    rw [List.length_append, byteSize_append] at behind
    refine behind.trans ?_
    simp only [bodyOffset, parts.separators]
    rfl
  have second : ((Place.start source.toList).skip (head.length + 2 + (body.length + 2))).offset =
      tailOffset source := by
    have behind := offset_start_skip parts.text
    simp only [List.length_append, List.length_cons, List.length_nil, byteSize_append] at behind
    rw [Nat.add_assoc (head.length + 2)] at behind
    refine behind.trans ?_
    simp only [tailOffset, parts.separators]
    rfl
  have atHead : Stands source 0 (partAt source 0) := stands_partAt divided rfl
  have atBody := stands_partAt divided first
  refine ⟨?_, ?_, ?_⟩
  · rw [atHead.upcoming]
    exact (congrArg Place.offset parts.first.onto).trans first
  · rw [atBody.standing, first]
  · rw [atBody.upcoming]
    exact (congrArg Place.offset parts.second.onto).trans second

theorem bodyOffset_whole (whole : Layout.ofSource source ≠ .headBodyTail) :
    bodyOffset source = 0 := by
  unfold bodyOffset
  split
  · next two =>
    refine absurd ?_ whole
    simp [Layout.ofSource, two]
  · rfl

/-- The body begins at a place of the text. -/
theorem standing_bodyOffset (source : String) :
    (partAt source (bodyOffset source)).standing.offset = bodyOffset source := by
  by_cases divided : Layout.ofSource source = .headBodyTail
  · exact (sections_of_divided divided).2.1
  · rw [bodyOffset_whole divided]
    exact congrArg Place.offset (standing_start rfl)

end
end SiteIndex.Template
