import FrameLink.Config.Files
import FrameLink.Proofs.Config.Acceptance
import FrameLink.Proofs.Config.Documents
import FrameLink.Proofs.Folder

/-
  Saving a configuration and reading it again.

  A configuration is kept if it can be written as a document
  from which it is read, and saved in every file that can be
  written, from which it is then read as well.  That is so for
  every configuration with a greatest packet below two to the
  sixty-third; any other one cannot be saved anywhere
  (`SocketConfig.saved_or_refused`).  What is not saved leaves
  all files as they were.

  Key definitions include:
    * `SocketConfig.Kept`
-/

------------------------------------------------------------
-- Saved Configurations
------------------------------------------------------------

namespace FrameLink

namespace SocketConfig

/- A configuration that is written and read unchanged. -/
def Kept (c : SocketConfig) : Prop :=
  ∃ text,
    c.toToml = .ok text ∧
      ofToml text = .ok c ∧
        ∀ (folder : Folder) (path : String),
          folder.Writable path →
            ∃ after,
              c.store path folder = (.ok (), after) ∧
                c.save path folder = .ok after ∧
                  after.readText path = .ok text ∧
                    ofFile after path = .ok c

/- Where nothing is stored, all files are as they were. -/
theorem store_of_error
    {c : SocketConfig}
    {path : String}
    {folder : Folder}
    {e : SocketError}
    (hFailed : (c.store path folder).1 = .error e) :
    (c.store path folder).2 = folder := by
  unfold store at hFailed ⊢
  split at hFailed
  · rfl
  · split at hFailed
    · cases hFailed
    · rfl

/- A configuration that fits is kept. -/
theorem kept_of_fits
    {c : SocketConfig}
    (hFits : c.framing.Fits) :
    c.Kept := by
  rcases toToml_of_fits hFits with ⟨text, hText, _⟩
  have hRead := ofToml_of_toToml hText
  refine ⟨text, hText, hRead, ?_⟩
  intro folder path hWritable
  rcases Folder.readText_of_writeText hWritable text with
    ⟨after, hWrite, hThere⟩
  have hStore : c.store path folder = (.ok (), after) := by
    simp only [store, hText, hWrite]
  refine ⟨after, hStore, ?_, hThere, ?_⟩
  · rw [save, hStore]
    rfl
  · simp only [ofFile, hThere, hRead]

/-
  A configuration is kept if a number of a document has room
  for its greatest packet, and else is refused wherever it
  would be saved.  Whatever is refused, there or for a file
  that cannot be written, writes nothing.  Those that are read
  from documents, and those with which nothing is wrong, are
  kept.
-/
theorem saved_or_refused (c : SocketConfig) :
    (c.framing.maxPacketSize.toNat < Nat.pow 2 63 → c.Kept) ∧
      (Nat.pow 2 63 ≤ c.framing.maxPacketSize.toNat →
        ∀ (folder : Folder) (path : String),
          ∃ message,
            c.store path folder =
                (.error (.configError message), folder) ∧
              c.save path folder =
                .error (.configError message)) ∧
        (∀ (folder : Folder) (path : String) (e : SocketError),
          (c.store path folder).1 = .error e →
            (c.store path folder).2 = folder) ∧
          (∀ text, ofToml text = .ok c → c.Kept) ∧
            (c.problems = [] → c.Kept) := by
  refine
    ⟨kept_of_fits, ?_, fun _ _ _ hFailed =>
      store_of_error hFailed, ?_, ?_⟩
  · intro hOver folder path
    have hRefused : c.toToml = .error unwritable := by
      rw [toToml, if_pos hOver]
    have hMessage :
        ∃ message, unwritable = .configError message :=
      ⟨_, rfl⟩
    rcases hMessage with ⟨message, hMessage⟩
    have hStore :
        c.store path folder =
          (.error (.configError message), folder) := by
      simp only [store, hRefused, hMessage]
    refine ⟨message, hStore, ?_⟩
    rw [save, hStore]
    rfl
  · intro text hRead
    exact kept_of_fits (fits_of_ofToml hRead)
  · intro hNone
    exact kept_of_fits (fits_of_problems hNone)

/-
  A name with quotes and line ends is kept, in a file too, and
  too great a packet writes nothing over a file that is there.
-/
theorem saved_or_refused_quoted :
    let quoted : SocketConfig :=
      { logging := { appName := "\"it's\"\r\n\\''" } }
    let vast : SocketConfig :=
      { framing := { maxPacketSize := UInt64.ofNat (Nat.pow 2 63) } }
    let given := "framing = \x7b listen_backlog = 7 \x7d"
    let found : SocketConfig :=
      { framing := { listenBacklog := 7 } }
    let there : Folder :=
      [((.above 0, "link.toml"), [35, 10])]
    (quoted.framing.maxPacketSize.toNat < Nat.pow 2 63 ∧
        quoted.Kept ∧
          quoted.problems = [] ∧
            Folder.Writable [] "link.toml" ∧
              ∃ after,
                quoted.save "link.toml" [] = .ok after ∧
                  ofFile after "link.toml" = .ok quoted) ∧
      (Nat.pow 2 63 ≤ vast.framing.maxPacketSize.toNat ∧
        ∃ message,
          vast.store "link.toml" there =
              (.error (.configError message), there) ∧
            vast.save "link.toml" there =
              .error (.configError message)) ∧
        ofToml given = .ok found ∧ found.Kept := by
  intro quoted vast given found there
  have hSmall :
      quoted.framing.maxPacketSize.toNat < Nat.pow 2 63 := by
    decide
  have hNone : quoted.problems = [] := by decide +kernel
  have hVast : Nat.pow 2 63 ≤ vast.framing.maxPacketSize.toNat := by
    decide
  have hGiven : ofToml given = .ok found := by
    decide +kernel
  have hWritable : Folder.Writable [] "link.toml" :=
    ⟨[], _, rfl⟩
  rcases (saved_or_refused quoted).2.2.2.2 hNone with
    ⟨_, _, _, hFile⟩
  rcases hFile [] "link.toml" hWritable with
    ⟨after, _, hSave, _, hRead⟩
  exact
    ⟨⟨hSmall, (saved_or_refused quoted).1 hSmall, hNone,
        hWritable, after, hSave, hRead⟩,
      ⟨hVast,
        (saved_or_refused vast).2.1 hVast there "link.toml"⟩,
      hGiven, (saved_or_refused found).2.2.2.1 given hGiven⟩

end SocketConfig

end FrameLink
