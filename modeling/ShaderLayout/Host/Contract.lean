import ShaderLayout.Contract.Basic

/-! The contract that the host is compiled against: the slots, blocks and vertices of the engine. -/

namespace ShaderLayout.Host

def slots : List Slot := [
  ⟨"vertex_buffer", .buffer, 0, .vertex⟩,
  ⟨"frame_uniforms", .buffer, 1, .block⟩,
  ⟨"light_data", .buffer, 2, .block⟩,
  ⟨"instance_data", .buffer, 3, .block⟩,
  ⟨"material_data", .buffer, 4, .block⟩,
  ⟨"pipeline_uniforms", .buffer, 5, .block⟩,
  ⟨"point_light_count", .buffer, 6, .scalar .uint⟩,
  ⟨"shadow_atlas", .texture, 0, .resource⟩,
  ⟨"base_texture", .texture, 1, .resource⟩,
  ⟨"sampler", .sampler, 0, .resource⟩,
  ⟨"shadow_sampler", .sampler, 1, .resource⟩]

/-- Data of each frame. -/
def frameUniforms : Block := {
  name := "FrameUniforms"
  slot := "frame_uniforms"
  fields := [⟨"view", .float4x4⟩, ⟨"projection", .float4x4⟩, ⟨"inverse_view", .float4x4⟩,
    ⟨"inverse_projection", .float4x4⟩, ⟨"camera_position", .float4⟩, ⟨"viewport_size", .float2⟩] }

/-- Data of each instance; normals have a matrix of their own, for uneven scaling. -/
def instanceData : Block := {
  name := "InstanceData"
  slot := "instance_data"
  fields := [⟨"model", .float4x4⟩, ⟨"normal_matrix", .float3x3⟩] }

def materialData : Block := {
  name := "MaterialData"
  slot := "material_data"
  fields := [⟨"base_color", .float4⟩, ⟨"emissive_color", .float4⟩, ⟨"scalars", .float4⟩] }

/-- A light; lights stand in an array whose length is passed apart. -/
def pointLight : Block := {
  name := "PointLight"
  slot := "light_data"
  fields := [⟨"position", .float4⟩, ⟨"color", .float4⟩, ⟨"radius", .float⟩] }

def shadowUniforms : Block := {
  name := "ShadowUniforms"
  slot := "pipeline_uniforms"
  fields := [⟨"view", .float4x4⟩, ⟨"projection", .float4x4⟩, ⟨"position", .float4⟩,
    ⟨"radius", .float⟩] }

def gridUniforms : Block := {
  name := "GridUniforms"
  slot := "pipeline_uniforms"
  fields := [⟨"view", .float4x4⟩, ⟨"projection", .float4x4⟩, ⟨"grid_color", .float4⟩,
    ⟨"camera_position", .float4⟩] }

def blinnPhongUniforms : Block := {
  name := "BlinnPhongUniforms"
  slot := "pipeline_uniforms"
  fields := [⟨"view", .float4x4⟩, ⟨"projection", .float4x4⟩] }

/-- The mask of selected objects. -/
def maskUniforms : Block := {
  name := "MaskUniforms"
  slot := "pipeline_uniforms"
  fields := [⟨"view", .float4x4⟩, ⟨"projection", .float4x4⟩] }

/-- The handle for rotations. -/
def circleUniforms : Block := {
  name := "CircleUniforms"
  slot := "pipeline_uniforms"
  fields := [⟨"radius", .float⟩, ⟨"thickness", .float⟩, ⟨"color", .float3⟩, ⟨"center", .float2⟩] }

def meshVertex : VertexInput := {
  name := "MeshVertex"
  slot := "vertex_buffer"
  stride := some 32
  attributes := [⟨"position", .float3⟩, ⟨"normal", .float3⟩, ⟨"texcoord", .float2⟩] }

def contract : Contract := {
  name := "Prism"
  hostRules := .metal
  slots := slots
  blocks := [frameUniforms, instanceData, materialData, pointLight, shadowUniforms, gridUniforms,
    blinnPhongUniforms, maskUniforms, circleUniforms]
  vertexInputs := [meshVertex] }

end ShaderLayout.Host
