import TopicWiki.Proofs.Extension.Installation
import TopicWiki.Proofs.Wiki.ExtensionTable
import TopicWiki.Proofs.Wiki.Renders

namespace TopicWiki

namespace Building

theorem mapM_ok {α β : Type} {f : α → Building β} {holds : β → Prop}
    (each : ∀ a log b log', (f a).run.run log = (.ok b, log') → holds b) {items : List α}
    {log log' : List LogEntry} {results : List β}
    (done : (items.mapM f).run.run log = (.ok results, log')) : ∀ b ∈ results, holds b := by
  induction items generalizing log results with
  | nil =>
    cases done
    exact fun b member => absurd member List.not_mem_nil
  | cons item rest ih =>
    rw [List.mapM_cons] at done
    obtain ⟨b, log₁, first, done⟩ := bind_ok done
    obtain ⟨others, log₂, later, done⟩ := bind_ok done
    cases done
    intro b' member
    rcases List.mem_cons.mp member with rfl | member
    · exact each item log b' log₁ first
    · exact ih later b' member

end Building

namespace RendererParts

open Building

variable {parts : RendererParts}

/-- The extensions that come with the library leave the state undisturbed; so what holds of those
    that an application adds holds of all that are installed. -/
theorem chosenExtensions_moves {M : State → State → Prop}
    (quiet : ∀ s s', Undisturbed s s' → M s s') (standard : parts.catalog = .standard)
    (own : ∀ extensions, parts.extensions? = some extensions → ∀ x ∈ extensions, x.Moves M)
    (extra : ∀ x ∈ parts.extra, x.Moves M) {log log' : List LogEntry} {chosen : List Extension}
    (done : parts.chosenExtensions.run.run log = (.ok chosen, log')) : ∀ x ∈ chosen, x.Moves M := by
  obtain ⟨definitions, log₁, -, done⟩ := bind_ok done
  cases given : parts.extensions? with
  | some extensions =>
    rw [given] at done
    cases done
    intro x member
    rcases List.mem_append.mp member with member | member
    · exact own extensions given x member
    · exact extra x member
  | none =>
    rw [given, standard] at done
    obtain ⟨built, log₂, found, done⟩ := bind_ok done
    cases done
    intro x member
    rcases List.mem_append.mp member with member | member
    · exact (mapM_ok ExtensionCatalog.standard_givesQuiet found x member).mono quiet
    · exact extra x member

/-- A renderer built with an engine of its own moves the state as `M` allows as long as the
    extensions do that an application adds. -/
theorem build_moves {M : State → State → Prop} (quiet : ∀ s s', Undisturbed s s' → M s s')
    (engine : parts.engine? = none) (standard : parts.catalog = .standard)
    (own : ∀ extensions, parts.extensions? = some extensions → ∀ x ∈ extensions, x.Moves M)
    (extra : ∀ x ∈ parts.extra, x.Moves M) {log log' : List LogEntry} {r : Renderer} {s : State}
    (built : parts.build.run.run log = (.ok (r, s), log')) : r.Moves M := by
  obtain ⟨controller, log₁, -, built⟩ := bind_ok built
  obtain ⟨store, log₂, -, built⟩ := bind_ok built
  obtain ⟨extensions, log₃, chosen, built⟩ := bind_ok built
  obtain ⟨engine', log₄, installed, built⟩ := bind_ok built
  obtain ⟨-, log₅, -, built⟩ := bind_ok built
  have added := chosenExtensions_moves quiet standard own extra chosen
  rw [engine] at installed
  cases built
  refine ⟨?_, ?_⟩
  · have bare : Engine.Moves M
        (Engine.attachLoader { autoescape := parts.config.autoescape }) :=
      ⟨Dictionary.all_empty _, Dictionary.all_empty _, Dictionary.all_empty _⟩
    exact bare.installAll added (lift_ok installed)
  · intro x member
    exact (added x (mem_of_mem_table member)).hook

/-- A renderer built with an engine of its own is calm as long as the extensions are that an
    application adds. -/
theorem build_calm (engine : parts.engine? = none) (standard : parts.catalog = .standard)
    (own : ∀ extensions, parts.extensions? = some extensions → ∀ x ∈ extensions, x.Calm)
    (extra : ∀ x ∈ parts.extra, x.Calm) {log log' : List LogEntry} {r : Renderer} {s : State}
    (built : parts.build.run.run log = (.ok (r, s), log')) : r.Calm := by
  have quiet (s s' : State) (undisturbed : Undisturbed s s') : Sheltering r.engine s s' :=
    undisturbed.sheltering r.engine
  have moves := build_moves quiet engine standard
    (fun extensions given x member => own extensions given x member r.engine)
    (fun x member => extra x member r.engine) built
  exact ⟨moves.engine.calm, fun x member render bindings =>
    (moves.hooks x member render bindings).keeps⟩

end RendererParts

end TopicWiki
