import Bootstrapper.Proofs.Path.Directory
import Bootstrapper.Proofs.Startup.Preparation

/-!
# The host beside the executable

A start that is not told where its host is puts the name of the host behind the runtime directory.
The two are put together as they are, with no slash between them, so this names a file in that
directory only because a directory of a path keeps its slash. The name itself has none.

* **`directoryOf?_hostPath`**: the path of such a host is text, and its directory is the one it was built
  from.
* **`directory_of_unnamed_host`**: what a start without a named host asks its loader for is in the
  directory of the executable.
* **`host_beside_executable`**: how the directory of a path is cut off, and what fits behind it.
-/

namespace Bootstrapper.Startup

variable {path directory : String}

/-- **The host in a directory of some path** is in that directory. -/
theorem directoryOf?_hostPath (h : Path.directoryOf? path = some directory) :
    ∃ host, hostPath none directory = Utf8.encode host ∧
      Path.directoryOf? host = some directory := by
  have hname : '/' ∉ hostFileName.toList := by decide +kernel
  exact ⟨directory ++ hostFileName, (Utf8.encode_append directory hostFileName).symm,
    Path.directoryOf?_append h hname⟩

/-- **A start that names no host** asks for one in the directory of its executable. -/
theorem directory_of_unnamed_host {world : World} {environment : Variables}
    {arguments : CommandLine.Arguments} {preparation : Preparation}
    (h : (prepare world environment arguments).2 = .ok preparation)
    (hunnamed : arguments.host = none) :
    ∃ executable host directory, world.executable = .ok (Utf8.encode executable) ∧
      preparation.host = Utf8.encode host ∧
      Path.directoryOf? executable = some directory ∧ Path.directoryOf? host = some directory := by
  obtain ⟨directory, hruntime, hhost⟩ := host_of_prepare h
  obtain ⟨executable, hexecutable, hdirectory⟩ := runtimeDirectory_eq_ok_iff.1 hruntime
  obtain ⟨host, hencoded, hsame⟩ := directoryOf?_hostPath hdirectory
  rw [hunnamed, hencoded] at hhost
  exact ⟨executable, host, directory, hexecutable, hhost, hdirectory, hsame⟩

/-- **The directory of a path and what is put behind it.** A path has a directory if it has a slash,
and this is the text up to its last one. Cut out of the bytes it is the same: the last slash is
found between two characters, so that the cut never fails. A name behind the directory is in it, and
so is the host of an executable. -/
theorem host_beside_executable (path : String) :
    (Path.directoryOf? path = none ↔ '/' ∉ path.toList) ∧
      (∀ directory, Path.directoryOf? path = some directory ↔ Path.IsDirectory path directory) ∧
      Path.sliceDirectory? path = some (Path.directoryOf? path) ∧
      (∀ place,
        Path.slashBefore? (Utf8.encode path) (Utf8.encode path).length = some place →
          Utf8.Boundary (Utf8.encode path) place ∧ Utf8.Boundary (Utf8.encode path) (place + 1)) ∧
      (∀ directory name, Path.directoryOf? path = some directory → '/' ∉ name.toList →
        Path.directoryOf? (directory ++ name) = some directory) ∧
      ('/' ∈ path.toList → ∃ directory host, Path.directoryOf? path = some directory ∧
        runtimeDirectory (.ok (Utf8.encode path)) = .ok directory ∧
        hostPath none directory = Utf8.encode host ∧
        Path.directoryOf? host = some directory) := by
  refine ⟨Path.directoryOf?_eq_none_iff, fun directory => Path.directoryOf?_eq_some_iff,
    Path.sliceDirectory?_eq path, fun place => Path.boundary_of_slashBefore?,
    fun directory name => Path.directoryOf?_append, fun hslash => ?_⟩
  obtain ⟨directory, hdirectory⟩ := Path.exists_isDirectory hslash
  have hfound : Path.directoryOf? path = some directory := Path.directoryOf?_of_isDirectory hdirectory
  obtain ⟨host, hencoded, hsame⟩ := directoryOf?_hostPath hfound
  exact ⟨directory, host, hfound, runtimeDirectory_eq_ok_iff.2 ⟨path, rfl, hfound⟩, hencoded, hsame⟩

/-- An executable among directories whose names are not in ASCII. -/
theorem host_beside_executable_multibyte :
    '/' ∈ "/opt/größe/日本😀/dnx–é".toList ∧
      Path.directoryOf? "/opt/größe/日本😀/dnx–é" = some "/opt/größe/日本😀/" ∧
      Path.directoryOf? ("/opt/größe/日本😀/" ++ "é😀") = some "/opt/größe/日本😀/" ∧
      ∃ host, hostPath none "/opt/größe/日本😀/" = Utf8.encode host ∧
        Path.directoryOf? host = some "/opt/größe/日本😀/" := by
  have hslash : '/' ∈ "/opt/größe/日本😀/dnx–é".toList := by decide +kernel
  have hname : '/' ∉ "é😀".toList := by decide +kernel
  have hfound : Path.directoryOf? "/opt/größe/日本😀/dnx–é" = some "/opt/größe/日本😀/" := by
    decide +kernel
  obtain ⟨-, -, -, -, happend, hhost⟩ := host_beside_executable "/opt/größe/日本😀/dnx–é"
  obtain ⟨directory, host, hdirectory, -, hencoded, hsame⟩ := hhost hslash
  obtain rfl : "/opt/größe/日本😀/" = directory := Option.some.inj (hfound.symm.trans hdirectory)
  exact ⟨hslash, hfound, happend _ _ hfound hname, host, hencoded, hsame⟩

end Bootstrapper.Startup
