import DockerizedLambda.Port.PortManager
import DockerizedLambda.Lib.Table
import DockerizedLambda.Port.Conservation
import DockerizedLambda.Docker.DockerManager
import DockerizedLambda.Pool.Config
import DockerizedLambda.Pool.Host
import DockerizedLambda.Pool.PoolManager
import DockerizedLambda.Pool.Effect
import DockerizedLambda.Pool.Hosts
import DockerizedLambda.Lib.Registry
import DockerizedLambda.Pool.Leases
import DockerizedLambda.Pool.Capacity
import DockerizedLambda.Pool.Ownership
import DockerizedLambda.Pool.Release
import DockerizedLambda.Pool.Exclusive
import DockerizedLambda.Pool.Cleanup
import DockerizedLambda.Pool.Containers
import DockerizedLambda.Pool.PortReuse
import DockerizedLambda.Pool.Shutdown
import DockerizedLambda.Gateway.Server
import DockerizedLambda.Gateway.Forwards
import DockerizedLambda.Gateway.Invocations
import DockerizedLambda.Lib.Fifo
import DockerizedLambda.DataStructure.QueueHistory
import DockerizedLambda.Port.DuplicateReturns
import DockerizedLambda.Port.Rotation
import DockerizedLambda.Pool.Staleness
import DockerizedLambda.Pool.Readiness
import DockerizedLambda.Pool.Spawn
import DockerizedLambda.Pool.Scaling
import DockerizedLambda.Lib.Lowercase
import DockerizedLambda.Lib.Multimap
import DockerizedLambda.Lib.Utf8
import DockerizedLambda.Gateway.Convert
import DockerizedLambda.Http.Builder
import DockerizedLambda.Runtime.Handler
import DockerizedLambda.Runtime.Response
import DockerizedLambda.Runtime.Metadata
import DockerizedLambda.Lib.RetryLoop
import DockerizedLambda.Pool.Calls
import DockerizedLambda.Pool.Probes
import DockerizedLambda.Gateway.Moves
import DockerizedLambda.Gateway.Requests
import DockerizedLambda.Gateway.Retry
import DockerizedLambda.Gateway.Pacing
import DockerizedLambda.Runtime.Server
import DockerizedLambda.Runtime.Served
import DockerizedLambda.Deployment.System
import DockerizedLambda.Deployment.EndToEnd
import DockerizedLambda.Deployment.Errors
import DockerizedLambda.Pool.FinalCleanup
import DockerizedLambda.Lib.Progress
import DockerizedLambda.Pool.Progress
import DockerizedLambda.Pool.CallsProgress
import DockerizedLambda.Pool.ShutdownProgress
import DockerizedLambda.Gateway.Progress
import DockerizedLambda.Deployment.Launch
import DockerizedLambda.Gateway.Drain
import DockerizedLambda.HelloLambda.Handler
import DockerizedLambda.Deployment.Hello
import DockerizedLambda.Pool.Daemon
