import ProfileFilter.Command.Run

/-!
# Files of a command

A command that takes a filter reads the filter and the attributes, in this order, and goes on if
both are there. What comes of it depends on the two files and nothing else.

Main statement: `withFilter_congr`.
-/

namespace ProfileFilter

/-- What is read from a file depends on the file. -/
theorem readDocument_congr {files files' : Files} {path : Text}
    (h : files (.working path) = files' (.working path)) :
    readDocument files path = readDocument files' path := by
  rw [readDocument, readDocument, h]

namespace Command

/-- The filter of an optional file; no file holds the empty one. -/
def optionalFilter (files : Files) : Option Text → Except FileFailure FilterSet
  | some path => loadFilter files path
  | none => .ok {}

variable {world world' : World} {file known : Option Text}

/-- The filter is read first. -/
theorem withFilter_eq (world : World) (file known : Option Text)
    (go : FilterSet → List Attribute → Outcome) :
    withFilter world file known go =
      match optionalFilter world.files file with
      | .error failure => withoutFile failure
      | .ok filter =>
        match optionalAttributes world.files known with
        | .error failure => withoutFile failure
        | .ok found => go filter found := by
  cases file <;> rfl

/-- A command whose files are read goes on with what is in them. -/
theorem withFilter_of_ok {world : World} {file known : Option Text} {filter : FilterSet}
    {found : List Attribute} (hfilter : optionalFilter world.files file = .ok filter)
    (hfound : optionalAttributes world.files known = .ok found)
    (go : FilterSet → List Attribute → Outcome) :
    withFilter world file known go = go filter found := by
  rw [withFilter_eq]
  simp only [hfilter, hfound]

/-- **A command reads no other files than its own.** -/
theorem withFilter_congr
    (hfiles : ∀ path ∈ file.toList ++ known.toList,
      world.files (.working path) = world'.files (.working path))
    (go : FilterSet → List Attribute → Outcome) :
    withFilter world file known go = withFilter world' file known go := by
  obtain ⟨hfile, hknown⟩ := List.forall_mem_append.mp hfiles
  have hfilter : optionalFilter world.files file = optionalFilter world'.files file := by
    cases file with
    | none => rfl
    | some path =>
      rw [optionalFilter, optionalFilter, loadFilter, loadFilter,
        readDocument_congr (hfile path (List.mem_singleton.mpr rfl))]
  have hattributes : optionalAttributes world.files known =
      optionalAttributes world'.files known := by
    cases known with
    | none => rfl
    | some path =>
      rw [optionalAttributes, optionalAttributes, ProfileFilter.loadAttributes,
        ProfileFilter.loadAttributes, readDocument_congr (hknown path (List.mem_singleton.mpr rfl))]
  rw [withFilter_eq, withFilter_eq, hfilter, hattributes]

end Command

end ProfileFilter
