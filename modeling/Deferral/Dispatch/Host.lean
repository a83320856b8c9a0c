import Deferral.Cache.Registry
import Deferral.Dispatch.Action
import Deferral.Dispatch.Service

/-!
# Containers and their hosts

Containers, the hosts that run them, and what is known of a host from outside.
-/

namespace Deferral

/-! ### Containers

A container has a queue with its scheduler and a cache from the registry, which it gives back when
it is destroyed. The containers of a host share a registry and a clock. -/

/-- A container. -/
structure Container where
  scheduler : Scheduler
  /-- The number of its cache in the registry. -/
  cache : Nat
  disableDelays : Bool
  /-- Whether it has given its cache back. -/
  isReleased : Bool

namespace Container

/-- The name of a container, which is that of its queue. -/
def name (c : Container) : String := c.scheduler.queue.name

/-- The queue of a container. -/
def queue (c : Container) : Queue := c.scheduler.queue

/-- The container with another queue. -/
def withQueue (c : Container) (queue : Queue) : Container :=
  { c with scheduler := { c.scheduler with queue } }

/-- A container, whose cache is found in the registry or made, and pruned by its default
lifetime. -/
def create (network : ServerAddress → Except RedisError RedisServer) (time : Nat) (name : String)
    (settings : DispatchSettings) (cache : Option CacheSettings) (registry : Registry) :
    Except CacheError Container × Registry :=
  match registry.resolve network cache with
  | (.error e, registry) => (.error e, registry)
  | (.ok i, registry) =>
      let registry :=
        match registry.cache? i with
        | some c => registry.setCache i (c.setPruneTimer time [c.defaultTtl]).2
        | none => registry
      (.ok ⟨.new name settings, i, settings.disableDelays, false⟩, registry)

/-- The container stops and drops its records; its cache is given back the first time. -/
def destroy (c : Container) (registry : Registry) : Container × Registry :=
  let c := { c with scheduler := c.scheduler.stop }
  let c := c.withQueue c.queue.clear.2
  if c.isReleased then (c, registry)
  else ({ c with isReleased := true }, (registry.release c.cache).2)

end Container

/-! ### Hosts

A host runs containers with one registry and one clock. Elapsed time is apart from the clock: it
only drives timers. What comes next is the timer that is due first; of timers due at one time, those
of caches come first, and then schedulers in the order in which they were last set going. -/

/-- A host. -/
structure Host where
  registry : Registry
  clock : Instant
  /-- Elapsed time in nanoseconds. -/
  elapsed : Nat
  containers : List Container
  /-- The containers whose schedulers run, in the order in which they were last set going. -/
  armed : List Nat

/-- Something that is due at a time. -/
inductive HostEvent where
  | prune (cache : Nat)
  | tick (container : Nat)
deriving DecidableEq, Repr

namespace Host

/-- A host without containers. -/
def new (registry : Registry) (start : Instant) : Host := ⟨registry, start, 0, [], []⟩

/-- The container with a number. -/
def container? (h : Host) (i : Nat) : Option Container := h.containers[i]?

/-- The host after a container has become `c`. -/
def setContainer (h : Host) (i : Nat) (c : Container) : Host :=
  { h with containers := h.containers.set i c }

/-- The host with one more container. -/
def addContainer (h : Host) (network : ServerAddress → Except RedisError RedisServer)
    (name : String) (settings : DispatchSettings) (cache : Option CacheSettings) :
    Except CacheError Unit × Host :=
  match Container.create network h.elapsed name settings cache h.registry with
  | (.error e, registry) => (.error e, { h with registry })
  | (.ok c, registry) => (.ok (), { h with registry, containers := h.containers ++ [c] })

/-- The scheduler of a container is set going, after all others. -/
def arm (h : Host) (i : Nat) : Host := { h with armed := h.armed.filter (· != i) ++ [i] }

/-- Starts the scheduler of a container, unless it runs. -/
def start (h : Host) (i : Nat) : Host :=
  match h.container? i with
  | some c =>
      if c.scheduler.nextTick.isSome then h
      else (h.setContainer i { c with scheduler := c.scheduler.start h.elapsed }).arm i
  | none => h

/-- Stops the scheduler of a container. -/
def stop (h : Host) (i : Nat) : Host :=
  match h.container? i with
  | some c => h.setContainer i { c with scheduler := c.scheduler.stop }
  | none => h

/-- Destroys a container. -/
def destroy (h : Host) (i : Nat) : Host :=
  match h.container? i with
  | some c =>
      let (c, registry) := c.destroy h.registry
      { h with registry }.setContainer i c
  | none => h

/-- The timers of the caches that go off after now, with their times. -/
def pruneEvents (h : Host) : List (Nat × HostEvent) :=
  (h.registry.caches.zipIdx).filterMap fun (c, i) =>
    c.pruneTimer.map fun t => (t.nextAfter h.elapsed, .prune i)

/-- The ticks that are due, with their times. -/
def tickEvents (h : Host) : List (Nat × HostEvent) :=
  h.armed.filterMap fun i =>
    (h.container? i).bind fun c => c.scheduler.nextTick.map fun t => (t, .tick i)

/-- The first of several events to be due. -/
def earliest? : List (Nat × HostEvent) → Option (Nat × HostEvent)
  | [] => none
  | e :: r =>
      match earliest? r with
      | some f => if f.1 < e.1 then some f else some e
      | none => some e

/-- What comes next until a time, and when. -/
def nextEvent? (h : Host) (limit : Nat) : Option (Nat × HostEvent) :=
  (earliest? (h.pruneEvents ++ h.tickEvents)).filter fun e => e.1 ≤ limit

/-- The host at a later time. -/
def advanceTo (h : Host) (time : Nat) : Host := { h with elapsed := max h.elapsed time }

/-- The store of a cache is pruned. -/
def prune (h : Host) (now : Uptime) (cache : Nat) : Host :=
  match h.registry.cache? cache with
  | some c => { h with registry := h.registry.setCache cache (c.prune now) }
  | none => h

/-- The next tick of a running scheduler is due an interval from now. -/
def rearm (h : Host) (i : Nat) : Host :=
  match h.container? i with
  | some c =>
      if c.scheduler.nextTick.isSome then
        (h.setContainer i { c with scheduler := c.scheduler.rearm h.elapsed }).arm i
      else h
  | none => h

end Host

/-! ### Tenancies

The containers of a host are made and destroyed in any order, some of them again after they have
been destroyed, and their caches are used in between. Beside the host stands what is known of the
containers from outside: the settings that each was made with, and whether it has been destroyed. -/

/-- What is known of a container from outside. -/
structure Lease where
  /-- The settings of its cache, if it was made with any. -/
  settings : Option CacheSettings
  /-- Whether it has been destroyed. -/
  isOver : Bool
deriving DecidableEq, Repr

/-- A host, with the leases of its containers. -/
structure Tenancy where
  host : Host
  leases : List Lease

/-- Something that happens to the containers of a host. -/
inductive TenancyEvent where
  | create (network : ServerAddress → Except RedisError RedisServer) (name : String)
      (settings : DispatchSettings) (cache : Option CacheSettings)
  | destroy (container : Nat)
  /-- Work with a cache may change anything in it but what it was made with. -/
  | use (cache : Nat) (work : Cache → Cache)

namespace Tenancy

/-- A host without containers. -/
def new (registry : Registry) (start : Instant) : Tenancy := ⟨.new registry start, []⟩

/-- The registry of the host. -/
def registry (t : Tenancy) : Registry := t.host.registry

/-- The leases after one of them has ended. -/
def endLease (leases : List Lease) (i : Nat) : List Lease :=
  match leases[i]? with
  | some l => leases.set i { l with isOver := true }
  | none => leases

/-- One event. A container that could not be made has no lease. -/
def step (t : Tenancy) : TenancyEvent → Tenancy
  | .create network name settings cache =>
      match t.host.addContainer network name settings cache with
      | (.ok (), host) => ⟨host, t.leases ++ [⟨cache, false⟩]⟩
      | (.error _, host) => { t with host }
  | .destroy i => ⟨t.host.destroy i, endLease t.leases i⟩
  | .use i work => { t with host := { t.host with registry := t.registry.use i work } }

/-- The tenancy after events, one after another. -/
def run (t : Tenancy) (events : List TenancyEvent) : Tenancy := events.foldl step t

end Tenancy

end Deferral
