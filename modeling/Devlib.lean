import Devlib.Async.Coro
import Devlib.Async.Concurrently
import Devlib.Util.Dict
import Devlib.Util.Text
import Devlib.Target.Sysfs
import Devlib.Cpufreq.Module
import Devlib.Cpufreq.Footprint
import Devlib.Cpufreq.Frequencies
import Devlib.Cpufreq.Domains
import Devlib.Cpufreq.Tunables
import Devlib.Cpufreq.Cache
import Devlib.Cpufreq.UseGovernor
import Devlib.Cpufreq.Steps
import Devlib.Cpufreq.CapturePhase
import Devlib.Cpufreq.ApplyPhase
import Devlib.Cpufreq.Entry
import Devlib.Cpufreq.ForCpus
import Devlib.Cpufreq.RestorePhase
import Devlib.Cpufreq.Runs
import Devlib.Cpufreq.Frame
import Devlib.Cpufreq.Interleaving
import Devlib.Cpufreq.RoundTrip
import Devlib.Sched.Target
import Devlib.Cpufreq.GetAll
import Devlib.Sched.Features
import Devlib.Sched.Attributes
import Devlib.Sched.ProcFS
import Devlib.Sched.Capacities
import Devlib.Cpuidle.States
import Devlib.Cpuidle.Module
import Devlib.Gpufreq.Module
import Devlib.Platform.Basic
import Devlib.Host.Ops
import Devlib.Vexpress.Vemsd
import Devlib.Vexpress.Boot
import Devlib.Android.Fastboot
