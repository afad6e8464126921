import TestConductor.Bench.Work
import TestConductor.Bench.Workers
import TestConductor.Bench.Pools
import TestConductor.Bench.Collections
import TestConductor.Bench.Processes
import TestConductor.Bench.Sockets
/-! # The bench

The bench answers requests that exercise the conductor: each request names an operation and
carries its inputs, and the answer is a JSON value. Operations on single values are answered at
once; sessions replay their steps against scripted test hosts, proxies and engines, each step
run to its end and its effects to rest.
-/
namespace TestConductor

namespace Bench

def merge : Except Json Json → Json
  | .ok j => j
  | .error j => j

def answer (req : Json) : Json :=
  match strField req "op" with
  | "error" => errorOp req
  | "message_decode" => messageDecodeOp req
  | "message_new" => merge (messageNewOp req)
  | "payload" => merge (payloadOp req)
  | "criteria" => merge (criteriaOp req)
  | "test_case_event" => merge (testCaseEventOp req)
  | "stats" => merge (statsOp req)
  | "complete_args" => merge (completeArgsOp req)
  | "test_result" => merge (testResultOp req)
  | "attachment_set" => merge (attachmentSetOp req)
  | "work_queue" => merge (workQueueOp req)
  | "discovery_aggregator" => merge (discoveryAggregatorOp req)
  | "run_aggregator" => merge (runAggregatorOp req)
  | "config" => configOp req
  | "config_example" => configExampleOp
  | "config_io" => merge (configIoOp req)
  | "env_config" => merge (envConfigOp req)
  | "logging" => loggingOp req
  | "logging_init" => loggingInitOp req
  | "runtime" => merge (runtimeOp req)
  | "start_info" => startInfoOp req
  | "stopwatch" => stopwatchOp
  | "enums" => enumsOp
  | "env_builder" => merge (envBuilderOp req)
  | "engine" => merge (engineOp req)
  | "worker" => merge (workerOp req)
  | "pool" => merge (poolOp req)
  | "parallel_discovery" => merge (parallelOp req true)
  | "parallel_execution" => merge (parallelOp req false)
  | "proxy" => merge (proxyOp req)
  | "operation" => merge (operationOp req)
  | "in_process" => merge (inProcessOp req)
  | "e2e" => merge (endToEndOp req)
  | "real" => merge (realOp req)
  | "tcp" => tcpOp req
  | "test_case_events" => caseEventsOp req
  | "process_launch" => merge (processLaunchOp req)
  | "datacollection" => merge (collectionOp req)
  | "dc_spawn" => merge (collectionTaskOp req)
  | op => fault "driver_input" ("unknown op " ++ op)

end Bench

end TestConductor
