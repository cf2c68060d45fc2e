import SiteIndex.Proofs.Build.Twins

/-!
The feeds of two builds. A section of a feed is expanded in both, and comes to the same unless the file
of the feed is hidden; then it comes to an end in both at least.
-/

namespace SiteIndex.Build

open SiteIndex.Listing SiteIndex.FileSystem SiteIndex.Template

section
variable {site : Site} {spot : Spot} {ready ready' : Template → Prop} {hidden : Location → Prop}
  {even even' : Prop} {kind : FeedKind} {state state' : State}

theorem Stage.fed (stage : Stage site spot ready hidden even state state') {feed feed' : Feed}
    (twin : FeedTwin hidden state.files (site.output kind) feed feed')
    {context context' : Context} (directory : context.directory = spot.directory)
    (directory' : context'.directory = spot.directory)
    {after after' : Template} {scene scene' : Scene FileWriter}
    (leaves : Scene.Leaves context (site.output kind) ⟨state.arena, 0, ⟨state.files, feed.out⟩⟩
      scene)
    (leaves' : Scene.Leaves context' (site.output kind)
      ⟨state'.arena, 0, ⟨state'.files, feed'.out⟩⟩ scene')
    (alike : Alike hidden scene.out.files scene'.out.files)
    (layout : after.layout = feed.template.layout) (layout' : after'.layout = feed'.template.layout)
    (same : ¬ hidden (site.output kind) → after = after' ∧ scene.out.out = scene'.out.out)
    (level : even' → scene.arena.unmarked = scene'.arena.unmarked)
    (readied : kind = .newsfeed → ready' after.takeDiagnostics.2)
    (other : kind = .sitemap → ∀ template, ready template → ready' template) :
    Stage site spot ready' hidden even' (state.fed kind feed after scene)
      (state'.fed kind feed' after' scene') := by
  obtain ⟨content, rewritten⟩ := leaves.rewritten
  have still := leaves.still
  have still' := leaves'.still
  rw [directory] at still
  rw [directory'] at still'
  refine ((stage.rewritten rewritten.alike.outline alike).touched still still' level
    (Report.shown_addDiagnostics ..) (Report.shown_addDiagnostics ..)).setFeed (.some ?_)
    (fun news _ here => ?_) other
  · refine
      { path := twin.path
        layout := ?_
        lies := leaves.stays
        lies' := leaves'.stays
        opened := ⟨content, rewritten.holds⟩
        same := fun shown => ?_ }
    · change after.layout = after'.layout
      rw [layout, layout', twin.layout]
    · obtain ⟨rfl, out⟩ := same shown
      rw [twin.same shown, out]
  · cases here
    exact readied news

theorem Stage.lodged (stage : Stage site spot ready hidden even state state')
    (sited : spot.Sited site) {news : Option News.Item} (announced : ∀ item, news = some item →
      Announced spot.origin site.place hidden item.target) :
    Lodged site.place hidden (site.plan.context spot.directory news) state.arena state.files where
  conventions := rfl
  tree := stage.tree
  hides := stage.hides
  sited := by
    intro snapshot seen
    change spot.directory.bind state.arena.get? = some snapshot at seen
    have still := Arena.get?_still state.arena spot.directory
    rw [stage.arena, seen] at still
    exact (sited _ still).extends stage.extended rfl rfl
  announced item told := (announced item told).extends stage.extended

/-- A section of a feed is expanded alike in both builds, unless the file of the feed is hidden. -/
theorem expandFeed_aligned (ready' : Template → Prop) {news : Option News.Item}
    {suppressed : Bool} (sited : spot.Sited site)
    (announced : ∀ item, news = some item → Announced spot.origin site.place hidden item.target)
    (level : ¬ hidden (site.output kind) → even)
    (readied : kind = .newsfeed → ∀ {fuel} {template after : Template} {context}
      {scene later : Scene FileWriter} {ending}, ready template →
      template.expand (sceneHost FileWriter.sink context) fuel suppressed scene =
        some (.ok ending, after, later) → ready' after.takeDiagnostics.2)
    (other : kind = .sitemap → ∀ template, ready template → ready' template) :
    Step.Aligned (Stage site spot ready hidden even)
      (fun _ _ => Stage site spot ready' hidden (even ∧ ¬ hidden (site.output kind)))
      (Broken site) (Step.expandFeed site.plan kind spot.directory news suppressed)
      (Step.expandFeed site.plan' kind spot.directory news suppressed) := by
  intro state state' stage result result' run run'
  obtain ⟨result, later⟩ := result
  obtain ⟨result', later'⟩ := result'
  rcases stage.feed_cases kind with ⟨closed, closed'⟩ | ⟨feed, feed', opened, opened', twin⟩
  · rw [Step.expandFeed_closed closed] at run
    rw [Step.expandFeed_closed closed'] at run'
    cases run
    cases run'
    refine .ok { stage with
      primed := fun feed newsfeed => ?_, level := fun even => stage.level even.1 }
    cases kind with
    | sitemap => exact other rfl _ (stage.primed feed newsfeed)
    | newsfeed => exact nomatch closed.symm.trans newsfeed
  · obtain ⟨content, holds⟩ := twin.opened
    obtain ⟨content', holds'⟩ := stage.alike.isFile holds
    rw [← twin.lies] at holds
    rw [← twin.lies'] at holds'
    obtain ⟨ending, after, scene, ended, rfl, rfl⟩ := Step.expandFeed_ok opened holds run
    obtain ⟨ending', after', scene', ended', rfl, rfl⟩ :=
      Step.expandFeed_ok opened' holds' run'
    have leaves := (expand_leaves holds ended).2
    have leaves' := (expand_leaves holds' ended').2
    rw [twin.lies] at leaves
    rw [twin.lies'] at leaves'
    obtain ⟨_, layout, _⟩ := frame_of_expand ended
    obtain ⟨_, layout', _⟩ := frame_of_expand ended'
    have onward (news : kind = .newsfeed) : ready' after.takeDiagnostics.2 := by
      refine readied news (stage.primed feed ?_) ended
      rwa [news] at opened
    by_cases hid : hidden (site.output kind)
    · obtain ⟨_, changed⟩ := leaves.rewritten
      obtain ⟨_, changed'⟩ := leaves'.rewritten
      have alike : Alike hidden scene.out.files scene'.out.files :=
        ((changed.alike.symm.trans stage.alike).trans changed'.alike).mono
          (by rintro location ((rfl | within) | rfl) <;> assumption)
      exact .ok (stage.fed twin rfl rfl leaves leaves' alike layout layout'
        (fun shown => absurd hid shown) (fun even => absurd hid even.2) onward other)
    · cases twin.same hid
      have related : Scene.Related site.place hidden (site.plan.context spot.directory news)
          false ⟨state.arena, 0, ⟨state.files, feed.out⟩⟩
          ⟨state'.arena, 0, ⟨state'.files, feed.out⟩⟩ :=
        { lodged := stage.lodged sited announced
          accordant := ⟨stage.level (level hid), fun _ within => nomatch within.1⟩
          rootSteps := rfl
          out := rfl
          files := stage.alike
          shown := by rwa [twin.lies]
          holds := ⟨content, holds⟩ }
      obtain ⟨_, rfl, later⟩ := expand_related related ended ended'
      exact .ok (stage.fed twin rfl rfl leaves leaves' later.files layout layout'
        (fun _ => ⟨rfl, later.out⟩) (fun _ => later.accordant.unmarked) onward other)

theorem Stage.rewind (stage : Stage site spot ready hidden even state state')
    (readied : ∀ template, ready template →
      ready' (if kind = .newsfeed then template.rewind else template)) :
    Stage site spot ready' hidden even
      (state.setFeed kind ((state.feed? kind).map fun feed =>
        { feed with template := feed.template.rewind }))
      (state'.setFeed kind ((state'.feed? kind).map fun feed =>
        { feed with template := feed.template.rewind })) := by
  refine stage.setFeed ?_ (fun news feed' here => ?_) fun sitemap template old => ?_
  · have twins := stage.feeds kind
    generalize state.feed? kind = feed at twins
    generalize state'.feed? kind = feed' at twins
    cases twins with
    | none => exact .none
    | some twin =>
        exact .some { twin with
          layout := twin.layout, same := fun shown => by rw [twin.same shown] }
  · obtain ⟨feed, opened, rfl⟩ := Option.map_eq_some_iff.mp here
    rw [news] at opened
    simpa only [news, if_true] using readied _ (stage.primed feed opened)
  · simpa only [sitemap, reduceCtorEq, if_false] using readied _ old

/-- The body of a feed leaves the feed ready for the next one. -/
theorem writeBody_aligned {id : Nat} {news : Option News.Item} (here : spot.directory = some id)
    (sited : spot.Sited site)
    (announced : ∀ item, news = some item → Announced spot.origin site.place hidden item.target)
    (level : ¬ hidden (site.output kind) → even)
    (readied : kind = .newsfeed → ∀ {fuel} {template after : Template} {context}
      {scene later : Scene FileWriter} {ending}, ready template →
      template.expand (sceneHost FileWriter.sink context) fuel false scene =
        some (.ok ending, after, later) → ready after.restored) :
    Step.Aligned (Stage site spot ready hidden even)
      (fun _ _ => Stage site spot ready hidden (even ∧ ¬ hidden (site.output kind)))
      (Broken site) (Step.writeBody site.plan kind id news)
      (Step.writeBody site.plan' kind id news) := by
  unfold Step.writeBody
  rw [← here]
  refine Step.Aligned.bind (expandFeed_aligned
    (fun template => ready (if kind = .newsfeed then template.rewind else template))
    sited announced level ?_ ?_) fun _ _ => ?_
  · intro newsfeed _ _ _ _ _ _ _ old ended
    simp only [newsfeed, if_true]
    exact readied newsfeed old ended
  · intro sitemap template old
    simpa only [sitemap, reduceCtorEq, if_false] using old
  · exact Step.Aligned.modify fun state state' stage => stage.rewind fun _ old => old

theorem Spot.sited_outside (outside : spot.directory = none) : spot.Sited site := by
  intro snapshot seen
  rw [outside] at seen
  cases seen

/-- Outside of every directory the snapshots differ by their marks at the most. -/
theorem Stage.leveled (stage : Stage site spot ready hidden even state state')
    (outside : spot.directory = none) : Stage site spot ready hidden True state state' := by
  have arena := stage.arena
  have arena' := stage.arena'
  rw [outside] at arena arena'
  exact { stage with level := fun _ => arena.trans arena'.symm }

/-- A section of a feed outside of every directory. -/
theorem expandOutside_aligned (ready' : Template → Prop) {suppressed : Bool}
    (outside : spot.directory = none)
    (readied : kind = .newsfeed → ∀ {fuel} {template after : Template} {context}
      {scene later : Scene FileWriter} {ending}, ready template →
      template.expand (sceneHost FileWriter.sink context) fuel suppressed scene =
        some (.ok ending, after, later) → ready' after.takeDiagnostics.2)
    (other : kind = .sitemap → ∀ template, ready template → ready' template) :
    Step.Aligned (Stage site spot ready hidden True) (fun _ _ => Stage site spot ready' hidden True)
      (Broken site) (Step.expandFeed site.plan kind none none suppressed)
      (Step.expandFeed site.plan' kind none none suppressed) := by
  rw [← outside]
  exact (expandFeed_aligned ready' (spot.sited_outside outside) (fun _ absent => by cases absent)
    (fun _ => trivial) readied other).leaves fun _ _ _ _ stage => stage.leveled outside

theorem ifDivided_aligned (ready' : Template → Prop) {step step' : Step Unit}
    (divided : Step.Aligned (Stage site spot (fun template => ready template ∧
        (kind = .newsfeed → template.layout = .headBodyTail)) hidden True)
      (fun _ _ => Stage site spot ready' hidden True) (Broken site) step step')
    (whole : ∀ template, ready template →
      (kind = .newsfeed → template.layout ≠ .headBodyTail) → ready' template) :
    Step.Aligned (Stage site spot ready hidden True) (fun _ _ => Stage site spot ready' hidden True)
      (Broken site) (Step.ifDivided kind step) (Step.ifDivided kind step') := by
  intro state state' stage result result' run run'
  unfold Step.ifDivided at run run'
  rw [Step.get_apply] at run run'
  have undivided (clear : ∀ feed, kind = .newsfeed → state.feed? kind = some feed →
      feed.template.layout ≠ .headBodyTail) : Stage site spot ready' hidden True state state' :=
    { stage with
      primed := fun feed newsfeed => whole _ (stage.primed feed newsfeed) fun news =>
        clear feed news (by rw [news]; exact newsfeed) }
  rcases stage.feed_cases kind with ⟨closed, closed'⟩ | ⟨feed, feed', opened, opened', twin⟩
  · rw [closed] at run
    rw [closed'] at run'
    cases run
    cases run'
    exact .ok (undivided fun feed _ here => nomatch closed.symm.trans here)
  · simp only [opened] at run
    simp only [opened', ← twin.layout] at run'
    by_cases layout : feed.template.layout = .headBodyTail
    · rw [if_pos layout] at run run'
      refine divided state state' { stage with
        primed := fun feed' newsfeed => ⟨stage.primed feed' newsfeed, fun news => ?_⟩ }
        result result' run run'
      rw [news] at opened
      cases opened.symm.trans newsfeed
      exact layout
    · rw [if_neg layout] at run run'
      cases run
      cases run'
      refine .ok (undivided fun feed' _ here => ?_)
      cases opened.symm.trans here
      exact layout

/-- What waits for a feed is written to its file alike. -/
theorem FeedTwin.flushed {files files' : FileSystem} {feed feed' : Feed}
    (twin : FeedTwin hidden files (site.output kind) feed feed')
    (alike : Alike hidden files files') :
    ∃ later later' out out', feed.out.flush files = (.ok (), later, out) ∧
      feed'.out.flush files' = (.ok (), later', out') ∧ files.outline = later.outline ∧
      Alike hidden later later' := by
  obtain ⟨content, holds⟩ := twin.opened
  obtain ⟨out, written, _, flushed⟩ := feed.out.flush_file content
  rw [twin.lies] at flushed
  obtain ⟨later, passed, changed⟩ := flushed files holds
  by_cases hid : hidden (site.output kind)
  · obtain ⟨content', holds'⟩ := alike.isFile holds
    obtain ⟨out', written', _, flushed'⟩ := feed'.out.flush_file content'
    rw [twin.lies'] at flushed'
    obtain ⟨later', passed', changed'⟩ := flushed' files' holds'
    exact ⟨later, later', out, out', passed, passed', changed.alike.outline,
      ((changed.alike.symm.trans alike).trans changed'.alike).mono
        (by rintro location ((rfl | within) | rfl) <;> assumption)⟩
  · cases twin.same hid
    rw [alike.shown _ hid] at holds
    obtain ⟨later', passed', changed'⟩ := flushed files' holds
    exact ⟨later, later', out, out, passed, passed', changed.alike.outline,
      changed.both alike changed'⟩

/-- A feed that is closed, its file written, is closed in both. -/
theorem Twin.sealed (twin : Twin site ready hidden state state') {files files' : FileSystem}
    (outline : state.files.outline = files.outline) (alike : Alike hidden files files')
    (kind : FeedKind) :
    Twin site (fun _ => True) hidden { state.setFeed kind none with files }
      { state'.setFeed kind none with files := files' } := by
  have closed : Twin site (fun _ => True) hidden (state.setFeed kind none)
      (state'.setFeed kind none) :=
    twin.setFeed .none (fun _ _ _ => trivial) fun _ _ _ => trivial
  exact closed.rewritten (by simpa using outline) alike

theorem sealFeed_aligned :
    Step.Aligned (Stage site spot ready hidden even)
      (fun _ _ => Stage site spot (fun _ => True) hidden even) (Broken site)
      (Step.sealFeed kind) (Step.sealFeed kind) := by
  intro state state' stage result result' run run'
  unfold Step.sealFeed at run run'
  rw [Step.get_apply] at run run'
  have left : Stage site spot (fun _ => True) hidden even (state.setFeed kind none)
      (state'.setFeed kind none) :=
    stage.setFeed .none (fun _ _ _ => trivial) fun _ _ _ => trivial
  rcases stage.feed_cases kind with ⟨closed, closed'⟩ | ⟨feed, feed', opened, opened', twin⟩
  · rw [closed] at run
    rw [closed'] at run'
    cases run
    cases run'
    exact .ok { stage with primed := fun _ _ => trivial }
  · obtain ⟨files, files', out, out', flushed, flushed', outline, alike⟩ :=
      twin.flushed stage.alike
    simp only [opened] at run
    simp only [opened'] at run'
    rw [Step.get_apply, flushed] at run
    rw [Step.get_apply, flushed'] at run'
    cases run
    cases run'
    have written := left.rewritten (by simpa using outline) alike
    refine .ok { written with report := ?_ }
    rw [← twin.path]
    exact congrArg (fun report : Report =>
      { report with outputs := report.outputs.push feed.path }) stage.report

/-- The tail of a feed is written, and its file closed, in both builds. -/
theorem finishFeed_aligned (outside : spot.directory = none) :
    Step.Aligned (Stage site spot ready hidden True)
      (fun _ _ => Stage site spot (fun _ => True) hidden True) (Broken site)
      (Step.finishFeed site.plan kind) (Step.finishFeed site.plan' kind) := by
  rw [Step.finishFeed_eq, Step.finishFeed_eq]
  refine Step.Aligned.bind (ifDivided_aligned (fun _ => True) ?_ fun _ _ _ => trivial)
    fun _ _ => sealFeed_aligned
  refine Step.Aligned.bind (expandOutside_aligned (fun _ => True) outside
    (fun _ _ _ _ _ _ _ _ _ _ => trivial) fun _ _ _ => trivial) fun _ _ => ?_
  exact expandOutside_aligned (fun _ => True) outside (fun _ _ _ _ _ _ _ _ _ _ => trivial)
    fun _ _ _ => trivial

/-- A build that is over closes the feeds that are still open. -/
theorem Twin.closeFeed (twin : Twin site ready hidden state state') (kind : FeedKind) :
    Twin site (fun _ => True) hidden (state.closeFeed kind) (state'.closeFeed kind) := by
  unfold State.closeFeed
  rcases twin.feed_cases kind with ⟨closed, closed'⟩ | ⟨feed, feed', opened, opened', feeds⟩
  · simp only [closed, closed']
    exact twin.primed_of fun _ _ => trivial
  · obtain ⟨files, files', out, out', flushed, flushed', outline, alike⟩ :=
      feeds.flushed twin.alike
    simp only [opened, opened', flushed, flushed']
    exact twin.sealed outline alike kind

end

end SiteIndex.Build
