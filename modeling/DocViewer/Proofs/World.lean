import DocViewer.World

/-!
# What the world remembers

- The journal makes no difference to what follows: worlds that are the same but for it (`Alike`) answer alike.
- A command has one answer (`run_fst`), and the world after it remembers the command and has the disk it left
  (`run_alike`). Commands ask for no web page (`Offline`).
- A request is remembered whatever comes of it (`fetch_world`); `fetch_ok` and `fetch_error` tell what came of it.
-/

namespace DocViewer.World

/-! ## Worlds that are alike -/

/-- The worlds are the same but for their journals. -/
structure Alike (w w' : World) : Prop where
  tools : w.tools = w'.tools
  fetcher : w.fetcher = w'.fetcher
  inflate : w.inflate = w'.inflate
  disk : w.disk = w'.disk
  calls : w.calls = w'.calls
  requests : w.requests = w'.requests

namespace Alike

variable {w w' w'' : World}

theorem refl (w : World) : Alike w w := ⟨rfl, rfl, rfl, rfl, rfl, rfl⟩

theorem trans (h : Alike w w') (h' : Alike w' w'') : Alike w w'' :=
  ⟨h.tools.trans h'.tools, h.fetcher.trans h'.fetcher, h.inflate.trans h'.inflate, h.disk.trans h'.disk,
    h.calls.trans h'.calls, h.requests.trans h'.requests⟩

end Alike

theorem log_alike (w : World) (level : Log.Level) (source message : String) (fields : List (String × Log.Value)) :
    Alike (w.log level source message fields) w := ⟨rfl, rfl, rfl, rfl, rfl, rfl⟩

/-! ## Commands -/

/-- What a command gives. -/
def reply (w : World) (c : Command) : Except Error Captured :=
  match (w.tools w.calls w.disk c).1 with
  | .error fault => .error (.spawn c.program fault)
  | .ok captured => .ok captured

/-- The world after a command, but for the journal. -/
def ran (w : World) (c : Command) : World := { w with disk := (w.tools w.calls w.disk c).2, calls := c :: w.calls }

theorem run_fst (w : World) (c : Command) : (w.run c).1 = w.reply c := by
  unfold run reply
  simp only [log]
  split <;> simp_all

theorem run_alike (w : World) (c : Command) : Alike (w.run c).2 (w.ran c) := by
  unfold run
  simp only
  split
  · exact ⟨rfl, rfl, rfl, rfl, rfl, rfl⟩
  · refine (log_alike _ _ _ _ _).trans ?_
    split
    · exact ⟨rfl, rfl, rfl, rfl, rfl, rfl⟩
    · exact (log_alike _ _ _ _ _).trans ⟨rfl, rfl, rfl, rfl, rfl, rfl⟩

/-- A command that gives no output did not start. -/
theorem reply_error {w : World} {c : Command} {e : Error} (h : w.reply c = .error e) :
    ∃ fault, e = .spawn c.program fault := by
  unfold reply at h
  split at h
  · rename_i fault _
    exact ⟨fault, by cases h; rfl⟩
  · cases h

theorem Alike.reply {w w' : World} (h : Alike w w') (c : Command) : w.reply c = w'.reply c := by
  rw [World.reply, World.reply, h.tools, h.calls, h.disk]

theorem Alike.ran {w w' : World} (h : Alike w w') (c : Command) : Alike (w.ran c) (w'.ran c) := by
  refine ⟨h.tools, h.fetcher, h.inflate, ?_, ?_, h.requests⟩
  · rw [World.ran, World.ran, h.tools, h.calls, h.disk]
  · rw [World.ran, World.ran, h.calls]

/-! ## Requests -/

/-- No web page was asked for in between, and programs and web servers are the same. -/
structure Offline (w w' : World) : Prop where
  tools : w'.tools = w.tools
  fetcher : w'.fetcher = w.fetcher
  requests : w'.requests = w.requests

theorem Alike.offline {w w' : World} (h : Alike w' w) : Offline w w' := ⟨h.tools, h.fetcher, h.requests⟩

theorem Offline.trans {w w' w'' : World} (h : Offline w w') (h' : Offline w' w'') : Offline w w'' :=
  ⟨h'.tools.trans h.tools, h'.fetcher.trans h.fetcher, h'.requests.trans h.requests⟩

/-- Commands ask for no web page. -/
theorem ran_offline (w : World) (cs : List Command) : Offline w (cs.foldl ran w) := by
  induction cs generalizing w with
  | nil => exact ⟨rfl, rfl, rfl⟩
  | cons c cs ih =>
    have hone : Offline w (w.ran c) := ⟨rfl, rfl, rfl⟩
    exact hone.trans (ih (w.ran c))

variable {ω : Type} [Writer ω] {w w' : World} {url : Text} {sink sink' : ω}

/-- A request is remembered, and nothing else changes. -/
theorem fetch_world (w : World) (url : Text) (sink : ω) :
    (w.fetch url sink).2.2 = { w with requests := url :: w.requests } := by
  unfold fetch
  simp only
  split
  · rfl
  · split <;> rfl

/-- A request that succeeds was answered with a body, and all of it was copied. -/
theorem fetch_ok {n : Nat} (h : w.fetch url sink = (.ok n, sink', w')) :
    ∃ r, w.fetcher w.requests url = .body r ∧ copyChunked r sink = (.ok n, sink') := by
  unfold fetch at h
  simp only at h
  split at h
  · cases h
  · rename_i r hr
    refine ⟨r, hr, ?_⟩
    split at h
    · rename_i hc
      cases h
      exact hc
    · cases h

/-- A request that fails was refused, or copying the body broke off. -/
theorem fetch_error {e : Error} (h : w.fetch url sink = (.error e, sink', w')) :
    (∃ reason, e = .fetch url reason ∧ w.fetcher w.requests url = .refused reason ∧ sink' = sink) ∨
      ∃ r fault, e = .stream fault ∧ w.fetcher w.requests url = .body r ∧
        copyChunked r sink = (.error fault, sink') := by
  unfold fetch at h
  simp only at h
  split at h
  · rename_i reason hr
    cases h
    exact .inl ⟨reason, rfl, hr, rfl⟩
  · rename_i r hr
    split at h
    · cases h
    · rename_i hc
      cases h
      exact .inr ⟨r, _, rfl, hr, hc⟩

end DocViewer.World
