import Flotilla.Inspection
import Flotilla.Json.Shape

/-!
# Inspections from JSON

The answer of a node's container engine, and what an inspection takes from it. Of its many members
only a few are used, but an answer with a member that is wrong, or that stands in it twice, is
refused as a whole, wherever that member is.
-/

namespace Flotilla.Inspection

open Json (Shape)

/-! ## The parts of an answer -/

def bindingShape : Shape :=
  .record [("HostIp", .text), ("HostPort", .text)]

def bindingsShape : Shape :=
  .map (.orNull (.list bindingShape))

/-- A state, with the last checks of health. -/
def stateShape : Shape :=
  .record [("Status", .text), ("Running", .truth), ("Paused", .truth), ("Restarting", .truth),
    ("OOMKilled", .truth), ("Dead", .truth), ("Pid", .integer), ("ExitCode", .integer),
    ("Error", .text), ("StartedAt", .text), ("FinishedAt", .text),
    ("Health", .record [("Status", .text), ("FailingStreak", .integer),
      ("Log", .list (.record [("Start", .text), ("End", .text), ("ExitCode", .integer),
        ("Output", .text)]))])]

def platformShape : Shape :=
  .record [("architecture", .text), ("os", .text), ("os.version", .text),
    ("os.features", .texts), ("variant", .text)]

def descriptorShape : Shape :=
  .record [("mediaType", .text), ("digest", .text), ("size", .integer), ("urls", .texts),
    ("annotations", .labels), ("data", .text), ("platform", platformShape),
    ("artifactType", .text)]

def mountPointShape : Shape :=
  .record [("Type", .text), ("Name", .text), ("Source", .text), ("Destination", .text),
    ("Driver", .text), ("Mode", .text), ("RW", .truth), ("Propagation", .text)]

def configShape : Shape :=
  .record [("Hostname", .text), ("Domainname", .text), ("User", .text), ("AttachStdin", .truth),
    ("AttachStdout", .truth), ("AttachStderr", .truth), ("ExposedPorts", .map .anything),
    ("Tty", .truth), ("OpenStdin", .truth), ("StdinOnce", .truth), ("Env", .texts),
    ("Cmd", .texts),
    ("Healthcheck", .record [("Test", .texts), ("Interval", .integer), ("Timeout", .integer),
      ("Retries", .integer), ("StartPeriod", .integer), ("StartInterval", .integer)]),
    ("ArgsEscaped", .truth), ("Image", .text), ("Volumes", .map .anything),
    ("WorkingDir", .text), ("Entrypoint", .texts), ("NetworkDisabled", .truth),
    ("MacAddress", .text), ("OnBuild", .texts), ("Labels", .labels), ("StopSignal", .text),
    ("StopTimeout", .integer), ("Shell", .texts)]

/-! ## The host configuration -/

def throttleShape : Shape :=
  .record [("Path", .text), ("Rate", .integer)]

def policyShape : Shape :=
  .record [("Name", .word (RestartPolicy.all.map RestartPolicy.word)),
    ("MaximumRetryCount", .integer)]

def mountShape : Shape :=
  .record [("Target", .text), ("Source", .text), ("Type", .text), ("ReadOnly", .truth),
    ("Consistency", .text),
    ("BindOptions", .record [("Propagation", .text), ("NonRecursive", .truth),
      ("CreateMountpoint", .truth), ("ReadOnlyNonRecursive", .truth),
      ("ReadOnlyForceRecursive", .truth)]),
    ("VolumeOptions", .record [("NoCopy", .truth), ("Labels", .labels),
      ("DriverConfig", .record [("Name", .text), ("Options", .labels)]), ("Subpath", .text)]),
    ("ImageOptions", .record [("Subpath", .text)]),
    ("TmpfsOptions", .record [("SizeBytes", .integer), ("Mode", .integer),
      ("Options", .list .texts)])]

/-- The limits on what a container takes from the node. -/
def resourceFields : List (String × Shape) :=
  [("CpuShares", .integer), ("Memory", .integer), ("CgroupParent", .text),
    ("BlkioWeight", .integer),
    ("BlkioWeightDevice", .list (.record [("Path", .text), ("Weight", .integer)])),
    ("BlkioDeviceReadBps", .list throttleShape), ("BlkioDeviceWriteBps", .list throttleShape),
    ("BlkioDeviceReadIOps", .list throttleShape), ("BlkioDeviceWriteIOps", .list throttleShape),
    ("CpuPeriod", .integer), ("CpuQuota", .integer), ("CpuRealtimePeriod", .integer),
    ("CpuRealtimeRuntime", .integer), ("CpusetCpus", .text), ("CpusetMems", .text),
    ("Devices", .list (.record [("PathOnHost", .text), ("PathInContainer", .text),
      ("CgroupPermissions", .text)])),
    ("DeviceCgroupRules", .texts),
    ("DeviceRequests", .list (.record [("Driver", .text), ("Count", .integer),
      ("DeviceIDs", .texts), ("Capabilities", .list .texts), ("Options", .labels)])),
    ("KernelMemoryTCP", .integer), ("MemoryReservation", .integer), ("MemorySwap", .integer),
    ("MemorySwappiness", .integer), ("NanoCpus", .integer), ("OomKillDisable", .truth),
    ("Init", .truth), ("PidsLimit", .integer),
    ("Ulimits", .list (.record [("Name", .text), ("Soft", .integer), ("Hard", .integer)])),
    ("CpuCount", .integer), ("CpuPercent", .integer), ("IOMaximumIOps", .integer),
    ("IOMaximumBandwidth", .integer)]

def hostConfigShape : Shape :=
  .record <| resourceFields ++
    [("Binds", .texts), ("ContainerIDFile", .text),
      ("LogConfig", .record [("Type", .text), ("Config", .labels)]), ("NetworkMode", .text),
      ("PortBindings", bindingsShape), ("RestartPolicy", policyShape), ("AutoRemove", .truth),
      ("VolumeDriver", .text), ("VolumesFrom", .texts), ("Mounts", .list mountShape),
      ("ConsoleSize", .list .integer), ("Annotations", .labels), ("CapAdd", .texts),
      ("CapDrop", .texts), ("CgroupnsMode", .text), ("Dns", .texts), ("DnsOptions", .texts),
      ("DnsSearch", .texts), ("ExtraHosts", .texts), ("GroupAdd", .texts), ("IpcMode", .text),
      ("Cgroup", .text), ("Links", .texts), ("OomScoreAdj", .integer), ("PidMode", .text),
      ("Privileged", .truth), ("PublishAllPorts", .truth), ("ReadonlyRootfs", .truth),
      ("SecurityOpt", .texts), ("StorageOpt", .labels), ("Tmpfs", .labels), ("UTSMode", .text),
      ("UsernsMode", .text), ("ShmSize", .integer), ("Sysctls", .labels), ("Runtime", .text),
      ("Isolation", .text), ("MaskedPaths", .texts), ("ReadonlyPaths", .texts)]

/-! ## Networks -/

/-- An address with the length of its network part. -/
def addressShape : Shape :=
  .record [("Addr", .text), ("PrefixLen", .integer)]

def endpointShape : Shape :=
  .record [
    ("IPAMConfig", .record [("IPv4Address", .text), ("IPv6Address", .text),
      ("LinkLocalIPs", .texts)]),
    ("Links", .texts), ("MacAddress", .text), ("Aliases", .texts), ("DriverOpts", .labels),
    ("GwPriority", .integer), ("NetworkID", .text), ("EndpointID", .text), ("Gateway", .text),
    ("IPAddress", .text), ("IPPrefixLen", .integer), ("IPv6Gateway", .text),
    ("GlobalIPv6Address", .text), ("GlobalIPv6PrefixLen", .integer), ("DNSNames", .texts)]

def networksShape : Shape :=
  .record [("Bridge", .text), ("SandboxID", .text), ("HairpinMode", .truth),
    ("LinkLocalIPv6Address", .text), ("LinkLocalIPv6PrefixLen", .integer),
    ("Ports", bindingsShape), ("SandboxKey", .text),
    ("SecondaryIPAddresses", .list addressShape), ("SecondaryIPv6Addresses", .list addressShape),
    ("EndpointID", .text), ("Gateway", .text), ("GlobalIPv6Address", .text),
    ("GlobalIPv6PrefixLen", .integer), ("IPAddress", .text), ("IPPrefixLen", .integer),
    ("IPv6Gateway", .text), ("MacAddress", .text), ("Networks", .map endpointShape)]

/-! ## The whole -/

def answerShape : Shape :=
  .record [("Id", .text), ("Created", .text), ("Path", .text), ("Args", .texts),
    ("State", stateShape), ("Image", .text), ("ResolvConfPath", .text), ("HostnamePath", .text),
    ("HostsPath", .text), ("LogPath", .text), ("Name", .text), ("RestartCount", .integer),
    ("Driver", .text), ("Platform", .text), ("ImageManifestDescriptor", descriptorShape),
    ("MountLabel", .text), ("ProcessLabel", .text), ("AppArmorProfile", .text),
    ("ExecIDs", .texts), ("HostConfig", hostConfigShape),
    ("GraphDriver", .record [("Name", .text), ("Data", .labels)]), ("SizeRw", .integer),
    ("SizeRootFs", .integer), ("Mounts", .list mountPointShape), ("Config", configShape),
    ("NetworkSettings", networksShape)]

/-- The members of an object, each name once with its last value. -/
def lastValues : List (String × Json) → List (String × Json)
  | [] => []
  | (name, v) :: rest =>
    if rest.any (·.1 = name) then lastValues rest else (name, v) :: lastValues rest

def hostPortOf (binding : Json) : Option String :=
  (Shape.valueAt? ["HostPort"] bindingShape binding).bind Json.text?

/-- The host ports of the bindings of one container port; null means that there are none. -/
def hostPortsOf : Json → List (Option String)
  | .arr bindings => bindings.map hostPortOf
  | _ => []

def bindingsOf : Json → List (String × List (Option String))
  | .obj members => (lastValues members).map fun (name, v) => (name, hostPortsOf v)
  | _ => []

def ofJson? (j : Json) : Option Inspection :=
  let at? (path : List String) : Option Json := Shape.valueAt? path answerShape j
  if answerShape.fits j then
    some {
      name := (at? ["Name"]).bind Json.text?
      image := (at? ["Config", "Image"]).bind Json.text?
      env := (at? ["Config", "Env"]).bind (Json.list? Json.text?)
      bindings := ((at? ["HostConfig", "PortBindings"]).map bindingsOf).getD []
      policy := (at? ["HostConfig", "RestartPolicy", "Name"]).bind RestartPolicy.ofJson? }
  else none

end Flotilla.Inspection
