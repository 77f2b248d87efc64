import BranchingStory.Proofs.Http.Playthrough
import BranchingStory.Proofs.Narrative.Renaming

/-!
# Fragments on request

How the service serves the fragment of a choice to whoever keeps the state of the threads
himself: the body brings the state, the response carries the new one in headers and the fragment
in pieces, and the store stays as it is.
-/

namespace BranchingStory

open Operation

namespace Text

/-- Nothing of a text is lost between its pieces. -/
theorem flatten_pieces (size : Nat) (t : Text) :
  (pieces size t).flatten = t
  := by
  fun_induction pieces size t with
  | case1 => rfl
  | case2 c t ih => rw [List.flatten_cons, ih, List.cons_append, List.take_append_drop]

/-- A text is sent whole, in pieces or not. -/
theorem flatten_cut (size : Int) (t : Text) :
  (cut size t).flatten = t
  := by
  unfold cut
  split
  · apply flatten_pieces
  · simp

end Text

namespace Http

/-! ### The body -/

/-- The JSON form of a body that asks for a route. -/
def StoryBody.form (b : StoryBody) : Json :=
  .obj [("choice", .str b.choice), ("completed_threads", .arr (b.completed.map .str)),
    ("character_progress", .obj (Entries.mapValues .str b.progress))]

/-- The body that asks for a route in texts. -/
def StoryBody.ofTexts (choice : Text) (completed : List Text) (progress : Progress) : StoryBody :=
  ⟨choice, completed.map .text, progress.strs⟩

/-- The form of a body in texts holds these texts. -/
theorem StoryBody.form_ofTexts (choice : Text) (completed : List Text) (progress : Progress) :
  (ofTexts choice completed progress).form
    = .obj [("choice", .text choice), ("completed_threads", .ofTexts completed),
        ("character_progress", progress.toJson)]
  := by
  simp [form, ofTexts, Json.ofTexts, Progress.strs, Progress.toJson, Entries.mapValues]

/-- The form of a body in texts is flat. -/
theorem StoryBody.form_flat (choice : Text) (completed : List Text) (progress : Progress) :
  Json.Flat 2 (ofTexts choice completed progress).form
  := by
  rw [form_ofTexts]
  apply Json.Flat.obj
  simp [Json.Flat.str, Json.Flat.ofTexts, Progress.toJson_flat]

/-- The response with the fragment of a route in pieces of a size. -/
def fragmentResponse (size : Int) (route : Route Str) : Response where
  status := 200
  mediaType := some textType
  headers := ("cache-control", "no-cache") :: stateHeaders route
  pieces := Text.cut size route.fragment
  breakdown := none

/-- A request for the fragment of a choice. -/
structure Request.Routes (r : Request) (b : StoryBody) : Prop where
  method : r.method = "POST"
  path : (Address.ofText r.address).path = "/api/story"
  body : checkedBody r StoryBody.check = .ok b

variable {s : Store} {v : Settings} {size : Int} {r : Request} {b : StoryBody}

/-- A text is sent in pieces of the size that the settings name. -/
theorem run_stream (hv : (run Store.settings s).1 = .ok v)
    (hsize : PieceSize.ofJson v.chunkSize = .ok size) (route : Route Str) :
  run (stream route.fragment (stateHeaders route)) s = (.ok (fragmentResponse size route), s)
  := by
  rw [stream, run_bind_ok (run_settings hv)]
  rw [hsize]
  rfl

/-- The fragment of a choice that says something is answered, and the store stays. -/
theorem Request.Routes.answer (h : r.Routes b) (hv : (run Store.settings s).1 = .ok v)
    (hsize : PieceSize.ofJson v.chunkSize = .ok size)
    (hchoice : b.choice.isBlankOnly = false) :
  (answer r).run s = (fragmentResponse size b.route, s)
  := by
  have hlookup : Endpoint.lookup "POST" "/api/story" = .found .story := by decide
  have hroute : run (routeOf r) s = (.ok b.route, s) := by
    rw [routeOf, h.body, run_bind_ok (run_ofRequest _ s), run_passed hchoice, run_pure]
  apply answer_of_ok
  · rw [h.method, h.path, hlookup]
  · rw [serve, serveStory, run_bind_ok hroute, run_stream hv hsize]

end Http

end BranchingStory
