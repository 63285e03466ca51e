import BrokerPool.Files
import Mathlib.Data.List.Basic
import Mathlib.Data.Nat.Notation

/-!
# What a path leads to

A path whose names lead down from its beginning through directories arrives at what stands there. It
makes no difference whether it begins at the root or at the working directory, and a link on the way
goes on with the names of its target.

Results:
* `walk_down`: a walk along names that lead down through directories.
* `read_down`: a file is read under every path that leads down to it.
* `read_ofList`: a file that is given under a path is read under it.
* `follow_link`: a link in a directory is followed to its target.
* `read_of_file?`: what is found under a name in the working directory is what reading it gives.
-/

namespace BrokerPool.Files

variable {files : Files}

/-! ## The way down -/

/-- A name of something in a directory. -/
structure LeadsDown (name : String) : Prop where
  notHere : name ≠ "."
  notUp : name ≠ ".."
  short : name.utf8ByteSize ≤ nameLimit

/-- A path that the system takes. -/
structure Accepted (path : String) : Prop where
  noZero : path.toList.contains '\x00' = false
  notEmpty : path ≠ ""
  short : path.utf8ByteSize < pathLimit

/-- What stands at a path of names is no link, and all that it stands in are directories. -/
structure Straight (files : Files) (path names : List String) (node : FileNode) : Prop where
  way : ∀ before name after, names = before ++ name :: after →
    files.node? (path ++ before) = some .directory
  arrives : files.node? (path ++ names) = some node
  noLink : ∀ target, node ≠ .link target

theorem Straight.tail {path rest : List String} {name : String} {node : FileNode}
    (h : Straight files path (name :: rest) node) : Straight files (path ++ [name]) rest node where
  way before next after split := by
    have := h.way (name :: before) next after (by rw [split]; rfl)
    simpa using this
  arrives := by simpa using h.arrives
  noLink := h.noLink

/-- The first name leads to a directory, or to the end. -/
theorem Straight.next {path rest : List String} {name : String} {node : FileNode}
    (h : Straight files path (name :: rest) node) :
    ∃ next, files.node? (path ++ [name]) = some next ∧ ∀ target, next ≠ .link target := by
  cases rest with
  | nil => exact ⟨node, h.arrives, h.noLink⟩
  | cons second rest =>
    exact ⟨.directory, h.way [name] second rest rfl, fun _ => nofun⟩

theorem walk_down {path names : List String} {node : FileNode}
    (down : ∀ name ∈ names, LeadsDown name) (h : Straight files path names node) :
    files.walk path names = .ok (.arrived (path ++ names)) := by
  induction names generalizing path with
  | nil => simp [walk]
  | cons name rest ih =>
    obtain ⟨notHere, notUp, short⟩ := down name List.mem_cons_self
    obtain ⟨next, found, noLink⟩ := h.next
    have walked := ih (fun n hn => down n (List.mem_cons_of_mem _ hn)) h.tail
    rw [List.append_assoc] at walked
    rw [walk, show files.node? path = some .directory by simpa using h.way [] name rest rfl]
    simp only [if_neg notHere, if_neg notUp, if_neg (Nat.not_lt.mpr short), found]
    cases next with
    | link target => exact absurd rfl (noLink target)
    | _ => exact walked

theorem find_down {path names : List String} {node : FileNode}
    (down : ∀ name ∈ names, LeadsDown name) (h : Straight files path names node) :
    files.find path names = .ok node := by
  have walked := walk_down down h
  simp [find, follow, linkLimit, walked, h.arrives, bind, Except.bind, pure, Except.pure]

/-- Names that lead down lead to their place below the beginning of the path. -/
theorem place_down {directory : List String} {path : String}
    (down : ∀ name ∈ names path, LeadsDown name) :
    place directory path = start directory path ++ names path := by
  rw [place]
  generalize start directory path = begin
  revert down
  induction names path generalizing begin with
  | nil => simp
  | cons name rest ih =>
    intro down
    obtain ⟨notHere, notUp, -⟩ := down name List.mem_cons_self
    rw [List.foldl_cons, if_neg notHere, if_neg notUp,
      ih _ fun n hn => down n (List.mem_cons_of_mem _ hn), List.append_assoc, List.singleton_append]

/-! ## Reading -/

theorem read_accepted {path : String} (h : Accepted path) :
    files.read path = files.find (start files.here path) (names path) >>= FileNode.read := by
  simp only [read, h.noZero, h.notEmpty, Nat.not_le.mpr h.short, Bool.false_eq_true, if_false]

theorem read_down {path : String} {bytes : List UInt8} (accepted : Accepted path)
    (down : ∀ name ∈ names path, LeadsDown name)
    (h : Straight files (start files.here path) (names path) (.file bytes)) :
    files.read path = .ok bytes := by
  rw [read_accepted accepted, find_down down h]
  rfl

section Given

variable {entries : List (String × FileNode)} {here : List String}

/-- What stands at the place of one of some files if no other one stands there. -/
theorem node?_ofList {path : String} {node : FileNode} (given : (path, node) ∈ entries)
    (alone : ∀ e ∈ entries, place here e.1 = place here path → e = (path, node)) :
    (ofList entries here).node? (place here path) = some node := by
  have listed : (place here path, node) ∈ (ofList entries here).nodes :=
    List.mem_map.mpr ⟨_, given, rfl⟩
  cases found : (ofList entries here).nodes.lookup (place here path) with
  | none =>
    have absent := List.lookup_eq_none_iff.mp found _ listed
    simp at absent
  | some other =>
    obtain ⟨before, after, split, -⟩ := List.lookup_eq_some_iff.mp found
    have mem : (place here path, other) ∈ (ofList entries here).nodes := by simp [split]
    obtain ⟨e, he, same⟩ := List.mem_map.mp mem
    obtain rfl := alone e he (congrArg Prod.fst same)
    obtain rfl : node = other := congrArg Prod.snd same
    simp [node?, found]

/-- What a file stands in is a directory, unless something else is given there. -/
theorem node?_ofList_above {file : String} {node : FileNode} (given : (file, node) ∈ entries)
    {path : List String} (above : path <+: place here file)
    (free : ∀ e ∈ entries, place here e.1 ≠ path) :
    (ofList entries here).node? path = some .directory := by
  have absent : (ofList entries here).nodes.lookup path = none := by
    refine List.lookup_eq_none_iff.mpr fun listed mem => ?_
    obtain ⟨e, he, rfl⟩ := List.mem_map.mp mem
    simpa using (free e he).symm
  have listed : (place here file, node) ∈ (ofList entries here).nodes :=
    List.mem_map.mpr ⟨_, given, rfl⟩
  simp only [node?, absent]
  refine if_pos (Bool.or_eq_true_iff.mpr (.inr (List.any_eq_true.mpr ⟨_, listed, ?_⟩)))
  exact List.isPrefixOf_iff_prefix.mpr above

theorem read_ofList {path : String} {bytes : List UInt8} (accepted : Accepted path)
    (down : ∀ name ∈ names path, LeadsDown name) (given : (path, .file bytes) ∈ entries)
    (alone : ∀ e ∈ entries, place here e.1 <+: place here path → e = (path, .file bytes)) :
    (ofList entries here).read path = .ok bytes := by
  have there : place here path = start here path ++ names path := place_down down
  have straight : Straight (ofList entries here) (start here path) (names path) (.file bytes) := by
    refine ⟨fun before name after split => ?_, ?_, fun _ => nofun⟩
    · have above : start here path ++ before <+: place here path := by
        rw [there, split]
        exact ⟨name :: after, by simp⟩
      refine node?_ofList_above given above fun e he same => ?_
      obtain rfl := alone e he (same ▸ above)
      have shorter := congrArg List.length (there.symm.trans same)
      simp [split] at shorter
    · rw [← there]
      exact node?_ofList given fun e he same => alone e he (same ▸ List.prefix_rfl)
  exact read_down accepted down straight

end Given

/-! ## Names -/

/-- A name is the only one on its way. -/
theorem names_of_notMem {name : String} (plain : '/' ∉ name.toList) (notEmpty : name ≠ "") :
    names name = [name] := by
  have last : name.toList.getLast? ≠ some '/' := fun h => plain (List.mem_of_getLast? h)
  simp [names, List.splitOn_eq_singleton plain, last, notEmpty]

theorem start_of_notMem {name : String} (plain : '/' ∉ name.toList) (directory : List String) :
    start directory name = directory :=
  if_neg fun h => plain (List.mem_of_mem_head? h)

/-- What is found under a name in the working directory is what reading it gives. -/
theorem read_of_file? {name : String} {found : Except FileError (List UInt8)}
    (accepted : Accepted name) (plain : '/' ∉ name.toList) (h : files.file? name = some found) :
    files.read name = found := by
  rw [read_accepted accepted, names_of_notMem plain accepted.notEmpty, start_of_notMem plain]
  rw [file?] at h
  cases leads : files.find files.here [name] with
  | error reason => simp [leads] at h
  | ok node =>
    rw [leads] at h
    have result : node.read = found := by
      by_cases file : node.isFile = true
      · simpa [file] using h
      · simp [file] at h
    exact result

/-! ## Links -/

/-- A link in a directory leads to where its target leads in that directory. -/
theorem follow_link {path rest : List String} {name target : String} (links : ℕ)
    (down : LeadsDown name) (directory : files.node? path = some .directory)
    (link : files.node? (path ++ [name]) = some (.link target)) :
    files.follow (links + 1) path (name :: rest) =
      files.follow links (start path target) (names target ++ rest) := by
  obtain ⟨notHere, notUp, short⟩ := down
  have walked : files.walk path (name :: rest) = .ok (.linked path target rest) := by
    rw [walk, directory]
    simp only [if_neg notHere, if_neg notUp, if_neg (Nat.not_lt.mpr short), link]
  rw [follow, walked]
  rfl

example :
    let files := ofList [("/etc/ssl/ca.pem", .file [67, 65]), ("tls", .link "/etc/ssl")] ["app"]
    files.read "/etc/ssl/ca.pem" = .ok [67, 65] ∧ files.read "tls/ca.pem" = .ok [67, 65] := by
  decide

end BrokerPool.Files
