import Homescreen.Proofs.Config.WorkerScript

/-!
# What registration asks of a navigator and what it reports

Registration is the one place the bootstrap talks to the navigator about workers. For every
configuration, valid or not, and every navigator:

* without worker support nothing is asked and the navigator is left as it was
  (`registerWorker_unsupported`);
* with it, one registration is asked, of the configured script and scope as they stand, a missing
  scope as none (`registerWorker_logged_eq`), and the outcome carries the navigator's answer
  unchanged: the scope it granted, or the fault it refused with (`registered_iff`, `failed_iff`).

`registerWorker_reports` puts these together for a navigator made to keep the registrations asked
of it (`WorkerHost.logged`). A registration outcome is a value, never a failure of its own, so a
refusal reaches the caller only as `Registration.failed`.
-/

namespace Homescreen

variable {σ : Type}

/-- Without worker support nothing is asked and the navigator is left as it was. -/
theorem registerWorker_unsupported (h : WorkerHost σ) (s : σ) (c : Config)
    (hs : h.supportsWorkers s = false) : registerWorker h s c = (.unsupported, s) := by
  simp [registerWorker, hs]

section Supported

variable (h : WorkerHost σ) (s : σ) (c : Config) (hs : h.supportsWorkers s = true)
include hs

/-- With worker support the navigator ends as its one registration leaves it. -/
theorem registerWorker_state :
    (registerWorker h s c).2 = (h.register c.workerUrl c.workerScope s).2 := by
  rw [registerWorker, if_pos hs]
  cases h.register c.workerUrl c.workerScope s with
  | mk r s' => cases r <;> rfl

/-- The worker is reported registered under exactly the scope the navigator granted. -/
theorem registered_iff (scope : String) :
    (registerWorker h s c).1 = .registered scope ↔
      (h.register c.workerUrl c.workerScope s).1 = .ok scope := by
  rw [registerWorker, if_pos hs]
  cases h.register c.workerUrl c.workerScope s with
  | mk r s' => cases r <;> simp

/-- Registration is reported failed with exactly the fault the navigator refused with. -/
theorem failed_iff (fault : Fault) :
    (registerWorker h s c).1 = .failed fault ↔
      (h.register c.workerUrl c.workerScope s).1 = .error fault := by
  rw [registerWorker, if_pos hs]
  cases h.register c.workerUrl c.workerScope s with
  | mk r s' => cases r <;> simp

end Supported

/-- **Keeping the registrations asked changes nothing else**: a navigator made to keep them
reports and ends as the navigator itself, and keeps one registration, of the configured script and
scope, exactly when it supports workers. -/
theorem registerWorker_logged_eq (h : WorkerHost σ) (s : σ)
    (log : List (String × Option String)) (c : Config) :
    registerWorker h.logged (s, log) c =
      ((registerWorker h s c).1, (registerWorker h s c).2,
        log ++ if h.supportsWorkers s then [(c.workerUrl, c.workerScope)] else []) := by
  cases hs : h.supportsWorkers s with
  | false =>
    have hsup : h.logged.supportsWorkers (s, log) = false := hs
    simp [registerWorker, hs, hsup]
  | true =>
    have hsup : h.logged.supportsWorkers (s, log) = true := hs
    simp only [registerWorker, hs, hsup, if_true]
    cases hr : h.register c.workerUrl c.workerScope s with
    | mk r s' => cases r <;> simp [WorkerHost.logged, hr]

/-- **What registration asks and reports**, for any configuration and any navigator, kept with
the registrations asked of it. Without worker support it reports `unsupported`, asks nothing and
leaves the navigator as it was. With it, it asks exactly one registration, of the configured
script and scope as they stand, leaves the navigator as that registration does, and reports the
worker registered under exactly the scope granted or failed with exactly the fault the navigator
gave. -/
theorem registerWorker_reports (h : WorkerHost σ) (s : σ) (log : List (String × Option String))
    (c : Config) :
    (h.supportsWorkers s = false →
      registerWorker h.logged (s, log) c = (.unsupported, s, log)) ∧
    (h.supportsWorkers s = true →
      (registerWorker h.logged (s, log) c).2 =
        ((h.register c.workerUrl c.workerScope s).2, log ++ [(c.workerUrl, c.workerScope)]) ∧
      (∀ scope, (registerWorker h.logged (s, log) c).1 = .registered scope ↔
        (h.register c.workerUrl c.workerScope s).1 = .ok scope) ∧
      (∀ fault, (registerWorker h.logged (s, log) c).1 = .failed fault ↔
        (h.register c.workerUrl c.workerScope s).1 = .error fault)) := by
  refine ⟨fun hs => ?_, fun hs => ?_⟩
  · rw [registerWorker_logged_eq, registerWorker_unsupported h s c hs, hs]
    simp
  · rw [registerWorker_logged_eq, hs, if_pos rfl, registerWorker_state h s c hs]
    exact ⟨rfl, registered_iff h s c hs, failed_iff h s c hs⟩

/-- A navigator that refuses with `SecurityError: insecure origin` is asked once for the default
script and the refusal is reported, not raised. -/
theorem insecure_origin_reported :
    Navigator.host.supportsWorkers
        ⟨true, some "SecurityError: insecure origin", "https://example.com/static/public/", []⟩ =
      true ∧
    (registerWorker Navigator.host.logged
        (⟨true, some "SecurityError: insecure origin", "https://example.com/static/public/", []⟩,
          []) Config.default).2.2 = [("/static/public/sw.js", none)] ∧
    (registerWorker Navigator.host.logged
        (⟨true, some "SecurityError: insecure origin", "https://example.com/static/public/", []⟩,
          []) Config.default).1 =
      .failed (.registrationFailed "/static/public/sw.js" "SecurityError: insecure origin") := by
  obtain ⟨-, hsup⟩ := registerWorker_reports Navigator.host
    ⟨true, some "SecurityError: insecure origin", "https://example.com/static/public/", []⟩ []
    Config.default
  obtain ⟨hstate, -, hfailed⟩ := hsup rfl
  exact ⟨rfl, by rw [hstate]; rfl, (hfailed _).2 rfl⟩

end Homescreen
